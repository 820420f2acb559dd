/-
  WorkspaceTemplates/Proofs/Interview/Room.lean
  =============================================
  **Interviews on an output that breaks.**

  An output with room for some number of bytes takes that many and fails on the next
  one.  A computation is `Candid` when such an output makes one difference only: as soon
  as a byte does not fit, the computation ends with that failure and nothing more is
  written.  Whatever is written is candid, so are sequences of candid computations, and
  so is therefore a whole interview, wherever in its dialogue the room runs out.
-/
import WorkspaceTemplates.Proofs.Interview.Talk

namespace WorkspaceTemplates

/-- The same dialogue with room for some number of bytes. -/
def Dialogue.within (d : Dialogue) (n : Nat) : Dialogue := { d with room := some n }

namespace DialogueM

open Stateful

variable {α β : Type} {d : Dialogue}

/-! ### Candid computations -/

/-- On an output that takes everything, the computation writes `bytes` in this dialogue.  With room
for all of them it does the same; with less room it fails after as many as fit. -/
structure Writes (m : DialogueM α) (d : Dialogue) (bytes : List UInt8) : Prop where
  room : (m.runOn d).2.room = none
  output : (m.runOn d).2.output = d.output ++ bytes
  fits : ∀ n, bytes.length ≤ n →
    m.runOn (d.within n) = ((m.runOn d).1, (m.runOn d).2.within (n - bytes.length))
  breaks : ∀ n, n < bytes.length → ∃ d', m.runOn (d.within n) = (.error (.file .brokenPipe), d') ∧
    d'.output = d.output ++ bytes.take n

/-- A computation that hides no failure of the output. -/
def Candid (m : DialogueM α) : Prop := ∀ d, d.room = none → ∃ bytes, Writes m d bytes

/-- What writes nothing is as good with any room. -/
theorem writes_nil {m : DialogueM α} (hroom : (m.runOn d).2.room = none)
    (houtput : (m.runOn d).2.output = d.output)
    (h : ∀ n, m.runOn (d.within n) = ((m.runOn d).1, (m.runOn d).2.within n)) : Writes m d [] where
  room := hroom
  output := houtput.trans (List.append_nil d.output).symm
  fits n _ := h n
  breaks n hn := absurd hn (Nat.not_lt_zero n)

theorem Candid.pure (x : α) : Candid (pure x : DialogueM α) :=
  fun _ h => ⟨[], writes_nil h rfl fun _ => rfl⟩

theorem Candid.throw (f : Fault) : Candid (throw f : DialogueM α) :=
  fun _ h => ⟨[], writes_nil h rfl fun _ => rfl⟩

/-- What a text needs is what it leaves, and what does not fit of it is lost. -/
theorem candid_say (text : String) : Candid (say text) := by
  intro d h
  have hfree : (say text).runOn d = (.ok (), { d with output := d.output ++ utf8Bytes text }) := by
    rw [runOn_say, Dialogue.write, h]
    rfl
  have hwithin (n : Nat) : (say text).runOn (d.within n) =
      (if (utf8Bytes text).length ≤ n then .ok () else .error (.file .brokenPipe),
        { d with output := d.output ++ (utf8Bytes text).take n,
                 room := some (n - (utf8Bytes text).length) }) := by
    rw [runOn_say, Dialogue.write]
    simp [Dialogue.within]
  refine ⟨utf8Bytes text, ?_, ?_, ?_, ?_⟩
  · rw [hfree]
    exact h
  · rw [hfree]
  · intro n hn
    rw [hwithin, hfree, if_pos hn, List.take_of_length_le hn]
    rfl
  · intro n hn
    rw [hwithin, if_neg (Nat.not_le_of_lt hn)]
    exact ⟨_, rfl, rfl⟩

/-- A text may be written piece by piece, as formatted ones are: it makes no difference, not even
to where it breaks off. -/
theorem runOn_say_append (s t : String) (d : Dialogue) :
    (say (s ++ t)).runOn d = (say s >>= fun _ => say t).runOn d := by
  have hbytes : utf8Bytes (s ++ t) = utf8Bytes s ++ utf8Bytes t := by
    rw [utf8Bytes, String.toList_append, List.flatMap_append]
    rfl
  rw [runOn_bind, runOn_say, runOn_say, hbytes]
  generalize utf8Bytes s = first
  cases hroom : d.room with
  | none => simp [Dialogue.write, hroom, runOn_say]
  | some n =>
    by_cases hfirst : first.length ≤ n
    · simp [Dialogue.write, hroom, runOn_say, hfirst, List.take_append, Nat.le_sub_iff_add_le,
        Nat.add_comm, Nat.sub_sub, List.take_of_length_le hfirst]
    · have hlt := Nat.lt_of_not_le hfirst
      have hall : ¬ first.length + (utf8Bytes t).length ≤ n := by omega
      have hleft : n - (first.length + (utf8Bytes t).length) = n - first.length := by omega
      simp [Dialogue.write, hroom, hfirst, hall, hleft,
        List.take_append_of_le_length (Nat.le_of_lt hlt)]

theorem candid_readLine : Candid readLine := by
  intro d h
  obtain ⟨script, output, room⟩ := d
  cases h
  rcases script with _ | ⟨_ | line, rest⟩
  · exact ⟨[], writes_nil rfl rfl fun _ => rfl⟩
  · exact ⟨[], writes_nil rfl rfl fun _ => rfl⟩
  · exact ⟨[], writes_nil rfl rfl fun _ => rfl⟩

theorem candid_readExample : Candid readExample := by
  intro d h
  refine ⟨[], writes_nil ?_ ?_ fun n => ?_⟩
  · rw [runOn_readExample]
    exact h
  · rw [runOn_readExample]
  · rw [runOn_readExample, runOn_readExample]
    rfl

section Sequences

variable {m : DialogueM α} {f : α → DialogueM β} {d₁ : Dialogue} {first second : List UInt8}

/-- A sequence whose first part fails writes what that part writes. -/
theorem Writes.bind_of_error {e : Fault} (h : Writes m d first)
    (hrun : m.runOn d = (.error e, d₁)) : Writes (m >>= f) d first where
  room := by rw [runOn_bind_of_error hrun, ← congrArg Prod.snd hrun, h.room]
  output := by rw [runOn_bind_of_error hrun, ← congrArg Prod.snd hrun, h.output]
  fits n hn := by
    have hfits := h.fits n hn
    rw [hrun] at hfits
    rw [runOn_bind_of_error hrun, runOn_bind_of_error hfits]
  breaks n hn := by
    obtain ⟨d', hd', houtput⟩ := h.breaks n hn
    exact ⟨d', runOn_bind_of_error hd', houtput⟩

/-- The bytes of a sequence are those of its parts.  When room runs out in the first part, the
second one is never begun. -/
theorem Writes.bind_of_ok {x : α} (hm : Writes m d first) (hrun : m.runOn d = (.ok x, d₁))
    (hf : Writes (f x) d₁ second) : Writes (m >>= f) d (first ++ second) := by
  have hseq : (m >>= f).runOn d = (f x).runOn d₁ := runOn_bind_of_ok hrun
  have houtput : d₁.output = d.output ++ first := by rw [← hm.output, hrun]
  have hfits {n : Nat} (hn : first.length ≤ n) :
      (m >>= f).runOn (d.within n) = (f x).runOn (d₁.within (n - first.length)) := by
    have h := hm.fits n hn
    rw [hrun] at h
    exact runOn_bind_of_ok h
  refine ⟨by rw [hseq, hf.room], by rw [hseq, hf.output, houtput, List.append_assoc], ?_, ?_⟩
  · intro n hn
    rw [List.length_append] at hn
    rw [hfits (by omega), hseq, hf.fits _ (by omega), List.length_append, Nat.sub_sub]
  · intro n hn
    by_cases hfirst : n < first.length
    · obtain ⟨d', hd', hout⟩ := hm.breaks n hfirst
      refine ⟨d', runOn_bind_of_error hd', ?_⟩
      rw [hout, List.take_append_of_le_length (Nat.le_of_lt hfirst)]
    · have hle := Nat.le_of_not_lt hfirst
      rw [List.length_append] at hn
      obtain ⟨d', hd', hout⟩ := hf.breaks (n - first.length) (by omega)
      refine ⟨d', (hfits hle).trans hd', ?_⟩
      rw [hout, houtput, List.append_assoc, List.take_append, List.take_of_length_le hle]

theorem Candid.bind (hm : Candid m) (hf : ∀ x, Candid (f x)) : Candid (m >>= f) := by
  intro d hd
  obtain ⟨first, hfirst⟩ := hm d hd
  cases hrun : m.runOn d with
  | mk result d₁ =>
    cases result with
    | error e => exact ⟨first, hfirst.bind_of_error hrun⟩
    | ok x =>
      obtain ⟨second, hsecond⟩ := hf x d₁ (by rw [← hfirst.room, hrun])
      exact ⟨first ++ second, hfirst.bind_of_ok hrun hsecond⟩

end Sequences

theorem candid_ask (prompt : String) : Candid (ask prompt) :=
  (candid_say prompt).bind fun _ => candid_readLine

theorem candid_answer (prompt : String) : Candid (answer prompt) :=
  (candid_ask prompt).bind fun _ => Candid.pure _

/-- A talk hides no failure of the output. -/
theorem Talk.candid {m : DialogueM α} (h : Talk m) : Candid m := by
  induction h with
  | pure x => exact Candid.pure x
  | say text => exact candid_say text
  | answer prompt => exact candid_answer prompt
  | readExample => exact candid_readExample
  | bind _ _ ihm ihf => exact ihm.bind ihf

end DialogueM

/-! ### Interviews -/

namespace Interview

open DialogueM

theorem candid_askKind (name? : Option String) : Candid (askKind name?) := by
  cases name? with
  | none => exact Candid.throw _
  | some name =>
    by_cases hname : name = ""
    · rw [askKind, if_pos (by simp [hname])]
      exact Candid.throw _
    · exact (talk_askKind hname).candid

theorem candid_conduct (e : Engine) : Candid (conduct e) := by
  have hname : Candid askClassification :=
    (candid_say _).bind fun _ => (candid_ask _).bind candid_askKind
  have hall : Candid (askClassification >>= askOthers) :=
    hname.bind fun project => (talk_askOthers project).candid
  exact (candid_say _).bind fun _ => hall.bind fun answers => (talk_finish e answers).candid

/-- **No failure of the output is hidden.**  Take all the bytes that an interview writes with some
script to an output that takes everything.  With room for all of them, the interview ends as it
does there and writes the same; with less room it ends with the failure of the output, after
exactly as many of these bytes as there is room for. -/
theorem run_within (e : Engine) (script : Script) (n : Nat) :
    ((run e script (some n)).1, (run e script (some n)).2.output) =
      if (run e script none).2.output.length ≤ n then
        ((run e script none).1, (run e script none).2.output)
      else (.error (.file .brokenPipe), (run e script none).2.output.take n) := by
  obtain ⟨bytes, hwrites⟩ := candid_conduct e (Dialogue.start script none) rfl
  have houtput : (run e script none).2.output = bytes := hwrites.output
  rw [houtput]
  split
  · rename_i hn
    have hrun : run e script (some n) =
        ((run e script none).1, (run e script none).2.within (n - bytes.length)) :=
      hwrites.fits n hn
    rw [hrun, ← houtput]
    rfl
  · rename_i hn
    obtain ⟨d, hrun, hd⟩ := hwrites.breaks n (Nat.lt_of_not_le hn)
    have hrun' : run e script (some n) = (.error (.file .brokenPipe), d) := hrun
    rw [hrun', hd]
    rfl

end Interview

end WorkspaceTemplates

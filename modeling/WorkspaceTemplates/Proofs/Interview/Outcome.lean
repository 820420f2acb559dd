/-
  WorkspaceTemplates/Proofs/Interview/Outcome.lean
  ================================================
  **How an interview ends, and where its input may end.**

  Two dialogues are `Alike` when every question gets the same reply in both.  A
  computation is `Steady` when it cannot tell two such dialogues apart: it gives one
  result in both, writes the same, and leaves dialogues that are alike again.  All
  questions but the first are steady, since the end of input and a blank line answer
  them in the same way; the number of questions may depend on the replies as it likes.
  The first question tells an empty script from one that starts with a blank line, and
  ends the interview in both cases.
-/
import WorkspaceTemplates.Proofs.Interview.Talk
import WorkspaceTemplates.Proofs.Text.Pieces

namespace WorkspaceTemplates

/-! ### Scripts made of a text -/

namespace Script

theorem getD_dropEmptyLast {α : Type} (ps : List (List α)) (n : Nat) :
    (dropEmptyLast ps)[n]?.getD [] = ps[n]?.getD [] := by
  rw [dropEmptyLast]
  split
  · rename_i hlast
    obtain ⟨p, hp, hempty⟩ := (Option.any_eq_true _ _).1 hlast
    rw [List.getLast?_eq_getElem?, List.isEmpty_iff.1 hempty] at hp
    rw [List.getElem?_dropLast]
    split
    · rfl
    · rename_i hn
      rcases Nat.lt_or_ge n ps.length with hlt | hge
      · -- the last piece, which is empty
        have hlastn : n = ps.length - 1 := by omega
        rw [hlastn, hp]
        rfl
      · rw [List.getElem?_eq_none hge]
  · rfl

theorem reply_ofText (text : String) (n : Nat) :
    (ofText text).reply n =
      Text.trim (String.ofList ((Text.pieces '\n' text.toList)[n]?.getD [])) := by
  rw [reply, ofText, List.getElem?_map, ← getD_dropEmptyLast]
  cases (dropEmptyLast (Text.pieces '\n' text.toList))[n]? <;> rfl

theorem none_notMem_ofText (text : String) : none ∉ ofText text := by
  simp [ofText]

theorem ofText_eq_nil_iff {text : String} : ofText text = [] ↔ text = "" := by
  constructor
  · intro h
    rw [ofText, List.map_eq_nil_iff, dropEmptyLast] at h
    obtain ⟨p, ps, hp⟩ := List.exists_cons_of_ne_nil (Text.pieces_ne_nil '\n' text.toList)
    rw [hp] at h
    split at h
    · -- all there is is one empty piece
      rename_i hlast
      cases ps with
      | cons q qs => cases h
      | nil =>
        have hempty : p = [] := by simpa using hlast
        cases htext : text.toList with
        | nil => exact String.toList_eq_nil_iff.1 htext
        | cons c s =>
          rw [htext, hempty] at hp
          by_cases hc : c = '\n'
          · rw [Text.pieces, if_pos hc] at hp
            exact absurd (List.cons.inj hp).2 (Text.pieces_ne_nil '\n' s)
          · rw [Text.pieces_cons_of_ne hc] at hp
            cases hp
    · cases h
  · rintro rfl
    rfl

/-- The first line of a text is what stands before its first line break. -/
def firstLine (text : String) : String :=
  String.ofList (text.toList.takeWhile fun c => c != '\n')

theorem reply_ofText_zero (text : String) :
    (ofText text).reply 0 = Text.trim (firstLine text) := by
  rw [reply_ofText, Text.getD_pieces_zero, firstLine]

/-- Blanks behind a text make no difference to any reply. -/
theorem reply_ofText_append {text blanks : String} (h : Text.isAllBlank blanks = true) (n : Nat) :
    (ofText (text ++ blanks)).reply n = (ofText text).reply n := by
  have hblanks : ∀ c ∈ blanks.toList, Text.isBlank c = true := List.all_eq_true.1 h
  obtain ⟨b, hb, heq⟩ := @Text.getD_pieces_append '\n' _ hblanks text.toList n
  rw [reply_ofText, reply_ofText, String.toList_append, heq, Text.trim_append hb]

end Script

/-! ### Dialogues that are alike -/

/-- Nothing can fail but the interview itself: the output takes everything, every line is a
text. -/
structure Dialogue.Calm (d : Dialogue) : Prop where
  room : d.room = none
  lines : none ∉ d.script

/-- Every question gets the same reply in both dialogues, which have written the same so far. -/
structure Dialogue.Alike (d d' : Dialogue) : Prop where
  left : d.Calm
  right : d'.Calm
  output : d.output = d'.output
  replies : ∀ n, d.script.reply n = d'.script.reply n

theorem Script.reply_zero_of_calm {d : Dialogue} (h : d.Calm) :
    (d.script = [] ∧ d.script.reply 0 = "") ∨
      ∃ line rest, d.script = some line :: rest ∧ d.script.reply 0 = Text.trim line := by
  cases hs : d.script with
  | nil => exact .inl ⟨rfl, rfl⟩
  | cons line rest =>
    cases line with
    | none => exact absurd (hs ▸ List.mem_cons_self) h.lines
    | some line => exact .inr ⟨line, rest, rfl, rfl⟩

namespace DialogueM

open Stateful

variable {α β : Type} {d d' : Dialogue}

/-- A dialogue after some text was written to an output that takes everything. -/
def said (text : String) (d : Dialogue) : Dialogue :=
  { d with output := d.output ++ utf8Bytes text }

theorem runOn_say_of_calm (h : d.Calm) (text : String) :
    (say text).runOn d = (.ok (), said text d) := by
  have hwrite : d.write (utf8Bytes text) = (true, said text d) := by
    simp only [Dialogue.write, h.room, said]
  rw [runOn_say, hwrite]
  rfl

theorem calm_said (h : d.Calm) (text : String) : (said text d).Calm := ⟨h.room, h.lines⟩

theorem alike_said (h : d.Alike d') (text : String) : (said text d).Alike (said text d') :=
  ⟨calm_said h.left text, calm_said h.right text, congrArg (· ++ utf8Bytes text) h.output,
    h.replies⟩

/-- A dialogue after its next line was read, if there is one. -/
def skipped (d : Dialogue) : Dialogue := { d with script := d.script.tail }

theorem alike_skipped (h : d.Alike d') : (skipped d).Alike (skipped d') where
  left := ⟨h.left.room, fun hmem => h.left.lines (List.mem_of_mem_tail hmem)⟩
  right := ⟨h.right.room, fun hmem => h.right.lines (List.mem_of_mem_tail hmem)⟩
  output := h.output
  replies n := by rw [skipped, skipped, Script.reply_tail, Script.reply_tail, h.replies]

theorem runOn_readLine_of_calm (h : d.Calm) :
    readLine.runOn d =
      (.ok (if d.script = [] then none else some (d.script.reply 0)), skipped d) := by
  rw [runOn_readLine]
  rcases Script.reply_zero_of_calm h with ⟨hs, -⟩ | ⟨line, rest, hs, hreply⟩
  · cases d
    cases hs
    rfl
  · rw [hreply]
    simp [hs, skipped]

theorem runOn_ask_of_calm (h : d.Calm) (prompt : String) :
    (ask prompt).runOn d =
      (.ok (if d.script = [] then none else some (d.script.reply 0)),
        skipped (said prompt d)) := by
  rw [ask, runOn_bind_of_ok (runOn_say_of_calm h prompt),
    runOn_readLine_of_calm (calm_said h prompt)]
  rfl

theorem runOn_answer_of_calm (h : d.Calm) (prompt : String) :
    (answer prompt).runOn d = (.ok (d.script.reply 0), skipped (said prompt d)) := by
  rw [answer, runOn_bind_of_ok (runOn_ask_of_calm h prompt), runOn_pure]
  split
  · rename_i hs
    rw [hs]
    rfl
  · rfl

/-! ### Steady computations -/

/-- Both runs succeed with one result and leave dialogues that are alike. -/
def Agrees (m : DialogueM α) (d d' : Dialogue) : Prop :=
  ∃ x e e', m.runOn d = (.ok x, e) ∧ m.runOn d' = (.ok x, e') ∧ e.Alike e'

/-- A computation that cannot tell dialogues apart that are alike. -/
def Steady (m : DialogueM α) : Prop := ∀ d d', d.Alike d' → m.Agrees d d'

theorem Agrees.bind {m : DialogueM α} {f : α → DialogueM β} (hm : m.Agrees d d')
    (hf : ∀ x, Steady (f x)) : (m >>= f).Agrees d d' := by
  obtain ⟨x, e, e', he, he', halike⟩ := hm
  obtain ⟨y, g, g', hg, hg', h⟩ := hf x e e' halike
  refine ⟨y, g, g', ?_, ?_, h⟩
  · rw [runOn_bind_of_ok he, hg]
  · rw [runOn_bind_of_ok he', hg']

theorem Steady.bind {m : DialogueM α} {f : α → DialogueM β} (hm : Steady m)
    (hf : ∀ x, Steady (f x)) : Steady (m >>= f) :=
  fun d d' h => (hm d d' h).bind hf

theorem Steady.pure (x : α) : Steady (pure x : DialogueM α) :=
  fun d d' h => ⟨x, d, d', rfl, rfl, h⟩

theorem steady_say (text : String) : Steady (say text) :=
  fun _ _ h => ⟨(), _, _, runOn_say_of_calm h.left text, runOn_say_of_calm h.right text,
    alike_said h text⟩

theorem steady_answer (prompt : String) : Steady (answer prompt) := by
  intro d d' h
  refine ⟨d.script.reply 0, _, _, runOn_answer_of_calm h.left prompt, ?_,
    alike_skipped (alike_said h prompt)⟩
  rw [h.replies]
  exact runOn_answer_of_calm h.right prompt

/-! ### Examples -/

/-- The loop ends well, with some lines, on a script that has texts only; `rest` is left. -/
def Collects (lines : List String) (s : Script) (found : List String) (rest : Script) : Prop :=
  exampleLines lines s = (.ok found, rest) ∧ none ∉ rest

theorem exampleLines_cons (lines : List String) (text : String) (s : Script) :
    exampleLines lines (some text :: s) =
      if (Text.trim text).isEmpty then
        if lines.isEmpty then exampleLines lines s else (.ok lines, s)
      else exampleLines (lines ++ [Text.trim text]) s := by
  rw [exampleLines]

theorem collects_of_blank {s : Script} (hlines : none ∉ s) (hblank : ∀ n, s.reply n = "")
    (lines : List String) : ∃ rest, Collects lines s lines rest ∧ ∀ n, rest.reply n = "" := by
  induction s with
  | nil => exact ⟨[], ⟨rfl, hlines⟩, hblank⟩
  | cons line s ih =>
    rw [List.mem_cons, not_or] at hlines
    obtain ⟨text, rfl⟩ := Option.ne_none_iff_exists'.1 (Ne.symm hlines.1)
    have hfirst : (Text.trim text).isEmpty = true := String.isEmpty_iff.2 (hblank 0)
    have hlater : ∀ n, Script.reply s n = "" := fun n => by
      rw [← hblank (n + 1), Script.reply_cons_succ]
    by_cases hnone : lines = []
    · obtain ⟨rest, ⟨hrun, hrest⟩, h⟩ := ih hlines.2 hlater
      refine ⟨rest, ⟨?_, hrest⟩, h⟩
      rw [exampleLines_cons, if_pos hfirst, if_pos (List.isEmpty_iff.2 hnone), hrun]
    · refine ⟨s, ⟨?_, hlines.2⟩, hlater⟩
      rw [exampleLines_cons, if_pos hfirst, if_neg (by simpa using hnone)]

/-- The loop sees the replies of a script only: leading blank lines, a blank line that ends the
example, and the end of the script. -/
theorem collects_of_replies {s s' : Script} (hlines : none ∉ s) (hlines' : none ∉ s')
    (h : ∀ n, s.reply n = s'.reply n) (lines : List String) :
    ∃ found rest rest', Collects lines s found rest ∧ Collects lines s' found rest' ∧
      ∀ n, rest.reply n = rest'.reply n := by
  induction s generalizing s' lines with
  | nil =>
    obtain ⟨rest', hrun', hblank'⟩ := collects_of_blank hlines' (fun n => (h n).symm) lines
    exact ⟨lines, [], rest', ⟨rfl, hlines⟩, hrun', fun n => (hblank' n).symm⟩
  | cons line s ih =>
    cases s' with
    | nil =>
      obtain ⟨rest, hrun, hblank⟩ := collects_of_blank hlines h lines
      exact ⟨lines, rest, [], hrun, ⟨rfl, hlines'⟩, hblank⟩
    | cons line' s' =>
      rw [List.mem_cons, not_or] at hlines hlines'
      obtain ⟨text, rfl⟩ := Option.ne_none_iff_exists'.1 (Ne.symm hlines.1)
      obtain ⟨text', rfl⟩ := Option.ne_none_iff_exists'.1 (Ne.symm hlines'.1)
      have hfirst : Text.trim text = Text.trim text' := h 0
      have hlater : ∀ n, Script.reply s n = Script.reply s' n := fun n => by
        rw [← Script.reply_cons_succ (some text) s, h (n + 1), Script.reply_cons_succ]
      have hgo (found : List String) := ih hlines.2 hlines'.2 hlater found
      simp only [Collects, exampleLines_cons, hfirst] at hgo ⊢
      split
      · split
        · exact hgo lines
        · exact ⟨lines, s, s', ⟨rfl, hlines.2⟩, ⟨rfl, hlines'.2⟩, hlater⟩
      · exact hgo (lines ++ [Text.trim text'])

theorem steady_readExample : Steady readExample := by
  intro d d' h
  obtain ⟨found, rest, rest', ⟨hrun, hrest⟩, ⟨hrun', hrest'⟩, hreplies⟩ :=
    collects_of_replies h.left.lines h.right.lines h.replies []
  refine ⟨found, { d with script := rest }, { d' with script := rest' }, ?_, ?_,
    ⟨h.left.room, hrest⟩, ⟨h.right.room, hrest'⟩, h.output, hreplies⟩
  · rw [runOn_readExample, hrun]
  · rw [runOn_readExample, hrun']

/-- A talk cannot tell dialogues apart that are alike. -/
theorem Talk.steady {m : DialogueM α} (h : Talk m) : Steady m := by
  induction h with
  | pure x => exact Steady.pure x
  | say text => exact steady_say text
  | answer prompt => exact steady_answer prompt
  | readExample => exact steady_readExample
  | bind _ _ ihm ihf => exact ihm.bind ihf

/-- How a turn of the loop ends. -/
inductive ExampleTurn where
  | goOn (lines : List String)
  | done (lines : List String)

/-- One turn of the loop that reads an example: leading blank lines are passed over. -/
def exampleTurn (lines : List String) : DialogueM ExampleTurn := do
  match ← readLine with
  | none => return .done lines
  | some line =>
    if line.isEmpty then
      if lines.isEmpty then return .goOn lines else return .done lines
    else return .goOn (lines ++ [line])

/-- At most some number of turns; there are no lines when the loop goes on after them. -/
def exampleTurns : Nat → List String → DialogueM (Option (List String))
  | 0, _ => return none
  | n + 1, lines => do
    match ← exampleTurn lines with
    | .goOn lines => exampleTurns n lines
    | .done lines => return some lines

theorem runOn_exampleTurn (lines : List String) (text : String) (s : Script) (d : Dialogue) :
    (exampleTurn lines).runOn { d with script := some text :: s } =
      (.ok (if (Text.trim text).isEmpty then
          if lines.isEmpty then .goOn lines else .done lines
        else .goOn (lines ++ [Text.trim text])), { d with script := s }) := by
  rw [exampleTurn, runOn_bind_of_ok (runOn_readLine _)]
  dsimp only
  split
  · split <;> rfl
  · rfl

/-- The loop has ended after one more turn than there are lines. -/
theorem runOn_exampleTurns_eq (s : Script) (d : Dialogue) {n : Nat} (hn : s.length < n)
    (lines : List String) :
    (exampleTurns n lines).runOn { d with script := s } =
      ((exampleLines lines s).1.map some, { d with script := (exampleLines lines s).2 }) := by
  induction s generalizing n lines with
  | nil =>
    obtain ⟨n, rfl⟩ := Nat.exists_eq_add_one_of_ne_zero (Nat.ne_zero_of_lt hn)
    rfl
  | cons line s ih =>
    obtain ⟨n, rfl⟩ := Nat.exists_eq_add_one_of_ne_zero (Nat.ne_zero_of_lt hn)
    cases line with
    | none => rfl
    | some text =>
      have hgo (found : List String) := ih (n := n) (Nat.lt_of_succ_lt_succ hn) found
      rw [exampleLines_cons, exampleTurns, runOn_bind_of_ok (runOn_exampleTurn lines text s d)]
      by_cases hblank : (Text.trim text).isEmpty = true
      · rw [if_pos hblank, if_pos hblank]
        by_cases hnone : lines.isEmpty = true
        · rw [if_pos hnone, if_pos hnone]
          exact hgo lines
        · rw [if_neg hnone, if_neg hnone]
          rfl
      · rw [if_neg hblank, if_neg hblank]
        exact hgo (lines ++ [Text.trim text])

end DialogueM

namespace Interview

open DialogueM Stateful

/-! ### The first question -/

variable {d d' : Dialogue}

/-- A dialogue after the first question was put and a line was read. -/
def named (d : Dialogue) : Dialogue :=
  skipped (said "What is the name of your project? " (said ("\n" ++ ruleLine ++ "\n" ++
    "PHASE 1: Project Classification" ++ "\n" ++ ruleLine ++ "\n") d))

theorem alike_named (h : d.Alike d') : (named d).Alike (named d') :=
  alike_skipped (alike_said (alike_said h _) _)

theorem runOn_askClassification (h : d.Calm) :
    askClassification.runOn d =
      (askKind (if d.script = [] then none else some (d.script.reply 0))).runOn (named d) := by
  have hask := runOn_ask_of_calm (calm_said h ("\n" ++ ruleLine ++ "\n" ++
    "PHASE 1: Project Classification" ++ "\n" ++ ruleLine ++ "\n"))
    "What is the name of your project? "
  rw [askClassification_eq, heading, sayLine, runOn_bind_of_ok (runOn_say_of_calm h _),
    runOn_bind_of_ok hask]
  rfl

theorem runOn_askClassification_of_nil (h : d.Calm) (hs : d.script = []) :
    askClassification.runOn d = (.error (.cancelled "end of input"), named d) := by
  rw [runOn_askClassification h, if_pos hs]
  rfl

theorem runOn_askClassification_of_blank (h : d.Calm) (hs : d.script ≠ [])
    (hname : d.script.reply 0 = "") :
    askClassification.runOn d = (.error (.cancelled "project name is required"), named d) := by
  rw [runOn_askClassification h, if_neg hs, hname]
  rfl

/-- With a name the rest of the questions is as steady as all others. -/
theorem agrees_askClassification (h : d.Alike d') (hname : d.script.reply 0 ≠ "") :
    askClassification.Agrees d d' := by
  have hs : d.script ≠ [] := by
    intro hs
    rw [hs] at hname
    exact hname rfl
  have hs' : d'.script ≠ [] := by
    intro hs'
    rw [h.replies, hs'] at hname
    exact hname rfl
  obtain ⟨x, e, e', he, he', halike⟩ := (talk_askKind hname).steady _ _ (alike_named h)
  refine ⟨x, e, e', ?_, ?_, halike⟩
  · rw [runOn_askClassification h.left, if_neg hs, he]
  · rw [runOn_askClassification h.right, if_neg hs', ← h.replies, he']

/-! ### Whole interviews -/

/-- A dialogue after the first line of an interview was written. -/
def opened (d : Dialogue) : Dialogue :=
  said "Starting 5-phase interview for new project setup...\n" d

theorem calm_opened (h : d.Calm) : (opened d).Calm := calm_said h _

theorem runOn_conduct (e : Engine) (h : d.Calm) :
    (conduct e).runOn d = (askClassification >>= askOthers >>= finish e).runOn (opened d) := by
  rw [conduct_eq, sayLine, runOn_bind_of_ok (runOn_say_of_calm h _)]
  rfl

theorem runOn_conduct_of_error (e : Engine) (h : d.Calm) {f : Fault} {g : Dialogue}
    (hfirst : askClassification.runOn (opened d) = (.error f, g)) :
    (conduct e).runOn d = (.error f, g) := by
  rw [runOn_conduct e h, runOn_bind_of_error (runOn_bind_of_error hfirst)]

theorem agrees_conduct (e : Engine) (h : d.Alike d') (hname : d.script.reply 0 ≠ "") :
    (conduct e).Agrees d d' := by
  have hall : (askClassification >>= askOthers).Agrees (opened d) (opened d') :=
    (agrees_askClassification (alike_said h _) hname).bind
      fun project => (talk_askOthers project).steady
  rw [Agrees, runOn_conduct e h.left, runOn_conduct e h.right]
  exact hall.bind fun answers => (talk_finish e answers).steady

theorem calm_start (text : String) : (Dialogue.start (Script.ofText text) none).Calm :=
  ⟨rfl, Script.none_notMem_ofText text⟩

theorem run_ofText_empty (e : Engine) :
    (run e (Script.ofText "") none).1 = .error (.cancelled "end of input") := by
  have hcalm := calm_start ""
  have hfirst := runOn_askClassification_of_nil (calm_opened hcalm) rfl
  exact congrArg Prod.fst (runOn_conduct_of_error e hcalm hfirst)

theorem run_ofText_of_blank (e : Engine) {text : String} (htext : text ≠ "")
    (hname : Text.trim (Script.firstLine text) = "") :
    (run e (Script.ofText text) none).1 = .error (.cancelled "project name is required") := by
  have hcalm := calm_start text
  have hfirst := runOn_askClassification_of_blank (calm_opened hcalm)
    (fun h => htext (Script.ofText_eq_nil_iff.1 h)) ((Script.reply_ofText_zero text).trans hname)
  exact congrArg Prod.fst (runOn_conduct_of_error e hcalm hfirst)

/-- With a name there is a context, and the replies decide about it and about what is written. -/
theorem run_ofText_congr (e : Engine) {text text' : String}
    (hname : Text.trim (Script.firstLine text) ≠ "")
    (h : ∀ n, (Script.ofText text).reply n = (Script.ofText text').reply n) :
    ∃ ctx, (run e (Script.ofText text) none).1 = .ok ctx ∧
      (run e (Script.ofText text') none).1 = .ok ctx ∧
      (run e (Script.ofText text) none).2.output = (run e (Script.ofText text') none).2.output := by
  have halike : (Dialogue.start (Script.ofText text) none).Alike
      (Dialogue.start (Script.ofText text') none) := ⟨calm_start text, calm_start text', rfl, h⟩
  obtain ⟨ctx, g, g', hg, hg', hend⟩ :=
    agrees_conduct e halike fun h => hname ((Script.reply_ofText_zero text).symm.trans h)
  refine ⟨ctx, congrArg Prod.fst hg, congrArg Prod.fst hg', ?_⟩
  exact (congrArg (fun r => r.2.output) hg).trans
    (hend.output.trans (congrArg (fun r => r.2.output) hg').symm)

theorem run_ofText_cases (e : Engine) (text : String) :
    (text = "" ∧ (run e (Script.ofText text) none).1 = .error (.cancelled "end of input")) ∨
    (text ≠ "" ∧ Text.trim (Script.firstLine text) = "" ∧
      (run e (Script.ofText text) none).1 = .error (.cancelled "project name is required")) ∨
    (text ≠ "" ∧ Text.trim (Script.firstLine text) ≠ "" ∧
      ∃ ctx, (run e (Script.ofText text) none).1 = .ok ctx) := by
  by_cases htext : text = ""
  · subst htext
    exact .inl ⟨rfl, run_ofText_empty e⟩
  · by_cases hname : Text.trim (Script.firstLine text) = ""
    · exact .inr (.inl ⟨htext, hname, run_ofText_of_blank e htext hname⟩)
    · obtain ⟨ctx, hctx, -, -⟩ := run_ofText_congr e hname fun _ => rfl
      exact .inr (.inr ⟨htext, hname, ctx, hctx⟩)

/-- How an interview ends with an output that takes everything: it is cancelled at the end of
input if the script is empty, cancelled for want of a name if there is a first line that is blank,
and gives a context otherwise.  When there is a name, blanks behind the script change neither the
context nor what is written.  The loop that reads examples ends within one turn more than there
are lines, on every script. -/
theorem run_outcome (e : Engine) (text : String) :
    ((run e (Script.ofText text) none).1 = .error (.cancelled "end of input") ↔ text = "") ∧
    ((run e (Script.ofText text) none).1 = .error (.cancelled "project name is required") ↔
      text ≠ "" ∧ Text.trim (Script.firstLine text) = "") ∧
    ((∃ ctx, (run e (Script.ofText text) none).1 = .ok ctx) ↔
      Text.trim (Script.firstLine text) ≠ "") ∧
    (∀ blanks, Text.isAllBlank blanks = true → Text.trim (Script.firstLine text) ≠ "" →
      (run e (Script.ofText (text ++ blanks)) none).1 = (run e (Script.ofText text) none).1 ∧
      (run e (Script.ofText (text ++ blanks)) none).2.output =
        (run e (Script.ofText text) none).2.output) ∧
    ∀ (d : Dialogue) (n : Nat), d.script.length < n →
      (exampleTurns n []).runOn d =
        ((readExample.runOn d).1.map some, (readExample.runOn d).2) := by
  have hcases := run_ofText_cases e text
  refine ⟨?_, ?_, ?_, ?_, ?_⟩
  · rcases hcases with ⟨rfl, hrun⟩ | ⟨htext, -, hrun⟩ | ⟨htext, -, ctx, hrun⟩
    · simp [hrun]
    · simp [hrun, htext]
    · simp [hrun, htext]
  · rcases hcases with ⟨rfl, hrun⟩ | ⟨htext, hname, hrun⟩ | ⟨-, hname, ctx, hrun⟩
    · simp [hrun]
    · simp [hrun, htext, hname]
    · simp [hrun, hname]
  · rcases hcases with ⟨rfl, hrun⟩ | ⟨-, hname, hrun⟩ | ⟨-, hname, ctx, hrun⟩
    · have hblank : Text.trim (Script.firstLine "") = "" := rfl
      simp [hrun, hblank]
    · simp [hrun, hname]
    · simp [hrun, hname]
  · intro blanks hblanks hname
    obtain ⟨ctx, hrun, hrun', houtput⟩ := run_ofText_congr e hname fun n =>
      (Script.reply_ofText_append hblanks n).symm
    exact ⟨hrun'.trans hrun.symm, houtput.symm⟩
  · intro d n hn
    rw [runOn_readExample]
    exact runOn_exampleTurns_eq d.script d hn []

/-- A script that ends in the middle of a menu, and blanks behind it. -/
theorem run_outcome_early_end :
    Text.isAllBlank "\n \n" = true ∧ Text.trim (Script.firstLine "Demo\n7") ≠ "" ∧
    (run .standard (Script.ofText ("Demo\n7" ++ "\n \n")) none).1 =
      (run .standard (Script.ofText "Demo\n7") none).1 ∧
    (∃ ctx, (run .standard (Script.ofText "Demo\n7") none).1 = .ok ctx) ∧
    (exampleTurns 3 []).runOn (Dialogue.start [some "", some "a"] none) =
      ((readExample.runOn (Dialogue.start [some "", some "a"] none)).1.map some,
        (readExample.runOn (Dialogue.start [some "", some "a"] none)).2) := by
  have hblanks : Text.isAllBlank "\n \n" = true := by decide
  have hname : Text.trim (Script.firstLine "Demo\n7") ≠ "" := by decide +kernel
  obtain ⟨-, -, hok, hend, hturns⟩ := run_outcome .standard "Demo\n7"
  exact ⟨hblanks, hname, (hend _ hblanks hname).1, hok.2 hname, hturns _ 3 (by decide)⟩

end Interview

end WorkspaceTemplates

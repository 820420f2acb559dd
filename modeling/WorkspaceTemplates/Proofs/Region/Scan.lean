/-
  WorkspaceTemplates/Proofs/Region/Scan.lean
  ==========================================
  **Resolving regions with two cursors.**

  Regions can be resolved in place, by byte offsets: one cursor marks how far the
  text is copied, another one where the next opening marker is looked for, and an
  opening marker without a partner moves the second one only.  Each turn of this
  loop cuts slices out of the text, and a slice is there only between boundaries of
  characters.  The loop ends, every slice is there, and what it writes is what
  `resolve` gives (`turns_start`).
-/
import WorkspaceTemplates.Proofs.Region.Piece

namespace WorkspaceTemplates

/-! ### Slices -/

namespace Text

/-- The text before a byte offset and the text after it, if the offset is a boundary. -/
def splitAt? (n : Nat) : List Char → Option (List Char × List Char)
  | [] => if n = 0 then some ([], []) else none
  | c :: s =>
    if n = 0 then some ([], c :: s)
    else if c.utf8Size ≤ n then (splitAt? (n - c.utf8Size) s).map fun p => (c :: p.1, p.2)
    else none

/-- The text between two byte offsets, if both are boundaries of the text and in order. -/
def slice? (s : List Char) (start stop : Nat) : Option (List Char) :=
  if start ≤ stop then
    (splitAt? start s).bind fun p => (splitAt? (stop - start) p.2).map Prod.fst
  else none

theorem splitAt?_eq_some_iff {n : Nat} {s a b : List Char} :
    splitAt? n s = some (a, b) ↔ s = a ++ b ∧ n = utf8Length a := by
  induction s generalizing n a with
  | nil =>
    simp only [splitAt?]
    split
    · rename_i hn
      subst hn
      constructor
      · intro h
        cases h
        exact ⟨rfl, rfl⟩
      · rintro ⟨h, -⟩
        obtain ⟨rfl, rfl⟩ := List.append_eq_nil_iff.1 h.symm
        rfl
    · rename_i hn
      constructor
      · intro h
        cases h
      · rintro ⟨h, hlength⟩
        obtain ⟨rfl, rfl⟩ := List.append_eq_nil_iff.1 h.symm
        exact absurd hlength hn
  | cons c s ih =>
    have hsize := c.utf8Size_pos
    simp only [splitAt?]
    cases a with
    | nil =>
      by_cases hn : n = 0
      · rw [if_pos hn]
        simp [hn, eq_comm]
      · rw [if_neg hn]
        constructor
        · intro h
          split at h
          · obtain ⟨p, -, hp⟩ := Option.map_eq_some_iff.1 h
            cases hp
          · cases h
        · rintro ⟨-, h⟩
          exact absurd h hn
    | cons d a =>
      simp only [List.cons_append, List.cons.injEq, utf8Length_cons]
      constructor
      · intro h
        split at h
        · cases h
        · split at h
          · obtain ⟨⟨a', b'⟩, hp, he⟩ := Option.map_eq_some_iff.1 h
            cases he
            obtain ⟨rfl, hn⟩ := ih.1 hp
            simp only at hn ⊢
            exact ⟨⟨trivial, trivial⟩, by omega⟩
          · cases h
      · rintro ⟨⟨rfl, rfl⟩, rfl⟩
        rw [if_neg (by omega), if_pos (by omega), Nat.add_sub_cancel_left,
          ih.2 ⟨rfl, rfl⟩, Option.map_some]

theorem slice?_eq_some_iff {s t : List Char} {start stop : Nat} :
    slice? s start stop = some t ↔
      ∃ p q, s = p ++ (t ++ q) ∧ start = utf8Length p ∧ stop = start + utf8Length t := by
  rw [slice?]
  constructor
  · intro h
    split at h
    · obtain ⟨⟨p, r⟩, hp, h⟩ := Option.bind_eq_some_iff.1 h
      obtain ⟨⟨t', q⟩, ht, rfl⟩ := Option.map_eq_some_iff.1 h
      obtain ⟨rfl, hstart⟩ := splitAt?_eq_some_iff.1 hp
      obtain ⟨rfl, hstop⟩ := splitAt?_eq_some_iff.1 ht
      exact ⟨p, q, rfl, hstart, by simp only at hstop ⊢; omega⟩
    · cases h
  · rintro ⟨p, q, rfl, rfl, rfl⟩
    rw [if_pos (Nat.le_add_right _ _), splitAt?_eq_some_iff.2 ⟨rfl, rfl⟩, Option.bind_some,
      Nat.add_sub_cancel_left, splitAt?_eq_some_iff.2 ⟨rfl, rfl⟩, Option.map_some]

theorem slice?_append (p t q : List Char) {start stop : Nat} (hstart : start = utf8Length p)
    (hstop : stop = start + utf8Length t) : slice? (p ++ (t ++ q)) start stop = some t :=
  slice?_eq_some_iff.2 ⟨p, q, rfl, hstart, hstop⟩

end Text

namespace Region

open Token
open Text (slice? utf8Length)

/-! ### The loop -/

/-- The first token with a tag that starts at or after a byte offset. -/
def firstFrom? (tag : List Char) (offset : Nat) (s : List Char) : Option Occurrence :=
  (occurrencesFrom tag 0 s).find? fun o => offset ≤ o.start

/-- Where the loop is, and what it has written. -/
structure Scan where
  /-- The text is copied up to here. -/
  cursor : Nat
  /-- The next opening marker is looked for from here. -/
  searchFrom : Nat
  out : List Char

/-- How a turn of the loop ends. -/
inductive Turn where
  | goOn (s : Scan)
  | done (out : List Char)

namespace Scan

/-- The loop before its first turn. -/
def start : Scan := ⟨0, 0, []⟩

/-- Copy what is pending before a region, then its body or nothing, and go on after the region. -/
def leave (keep : String → Bool) (template : List Char) (s : Scan) (opening close : Occurrence) :
    Option Turn :=
  let stop := opening.stop + close.stop
  (slice? template s.cursor opening.start).bind fun before =>
    (if keep (String.ofList opening.name) then
      slice? template opening.stop (opening.stop + close.start)
    else some []).map fun body => .goOn ⟨stop, stop, s.out ++ before ++ body⟩

/-- One turn of the loop; none if it cuts out a slice that is not there. -/
def turn (keep : String → Bool) (template : List Char) (s : Scan) : Option Turn :=
  let size := utf8Length template
  if s.searchFrom ≤ size then
    match firstFrom? ifTag s.searchFrom template with
    | none => (slice? template s.cursor size).map fun rest => .done (s.out ++ rest)
    | some opening =>
      (slice? template opening.stop size).bind fun tail =>
        match (occurrencesFrom endifTag 0 tail).find? (fun o => o.name == opening.name) with
        | none => some (.goOn { s with searchFrom := opening.stop })
        | some close => s.leave keep template opening close
  else none

/-- At most some number of turns one after another. -/
def turns (keep : String → Bool) (template : List Char) : Nat → Scan → Option Turn
  | 0, s => some (.goOn s)
  | n + 1, s =>
    match s.turn keep template with
    | some (.goOn s') => turns keep template n s'
    | ended => ended

end Scan

/-! ### Tokens by their offsets -/

section Offsets

variable {tag : List Char}

theorem start_of_mem_occurrencesFrom {s : List Char} {offset : Nat} {o : Occurrence}
    (h : o ∈ occurrencesFrom tag offset s) : offset ≤ o.start := by
  induction s generalizing offset with
  | nil => cases h
  | cons c s ih =>
    have hlater : o ∈ occurrencesFrom tag (offset + c.utf8Size) s → offset ≤ o.start :=
      fun hmem => Nat.le_trans (Nat.le_add_right _ _) (ih hmem)
    rw [occurrencesFrom] at h
    split at h
    · rcases List.mem_cons.1 h with rfl | h
      · exact Nat.le_refl _
      · exact hlater h
    · exact hlater h

/-- The tokens from an offset on are those of the text after it. -/
theorem find?_occurrencesFrom_append (a b : List Char) (offset : Nat) :
    ((occurrencesFrom tag offset (a ++ b)).find? fun o => offset + utf8Length a ≤ o.start) =
      (occurrencesFrom tag (offset + utf8Length a) b).head? := by
  induction a generalizing offset with
  | nil =>
    rw [List.nil_append, Text.utf8Length_nil, Nat.add_zero]
    cases hocc : occurrencesFrom tag offset b with
    | nil => rfl
    | cons o os =>
      have hstart : offset ≤ o.start :=
        start_of_mem_occurrencesFrom (by rw [hocc]; exact List.mem_cons_self)
      rw [List.find?_cons_of_pos, List.head?_cons]
      exact decide_eq_true hstart
  | cons c a ih =>
    have hsize := c.utf8Size_pos
    have hlater := ih (offset + c.utf8Size)
    rw [Nat.add_assoc] at hlater
    rw [List.cons_append, occurrencesFrom, Text.utf8Length_cons]
    split
    · rw [List.find?_cons_of_neg (by simp only [decide_eq_true_eq]; omega)]
      exact hlater
    · exact hlater

/-- The first token with a tag in a text, and what stands around it. -/
structure First (tag s before text rest name : List Char) : Prop where
  split : s = before ++ (text ++ rest)
  spelled : Spells (tag ++ name) text
  read : Token.matchAt? tag (text ++ rest) = some (name, rest)
  free : FreeOf tag before (text ++ rest)

theorem First.length_lt {s before text rest name : List Char}
    (h : First tag s before text rest name) : rest.length < s.length := by
  obtain ⟨tail, rfl, -⟩ := h.spelled.exists_cons
  rw [h.split]
  simp only [List.length_append, List.length_cons]
  omega

/-- The token with the first offset is the first one of the text, if there is any. -/
theorem head?_occurrencesFrom (htag : ∀ c ∈ tag, isNameChar c = true) (s : List Char)
    (offset : Nat) :
    ((occurrencesFrom tag offset s).head? = none ∧ FreeOf tag s []) ∨
    ∃ before text rest name, First tag s before text rest name ∧
      (occurrencesFrom tag offset s).head? =
        some ⟨offset + utf8Length before, offset + utf8Length (before ++ text), name⟩ := by
  induction s generalizing offset with
  | nil => exact .inl ⟨rfl, FreeOf.nil tag []⟩
  | cons c s ih =>
    rw [occurrencesFrom]
    cases hm : Token.matchAt? tag (c :: s) with
    | some p =>
      obtain ⟨name, rest⟩ := p
      obtain ⟨-, text, htext, hs⟩ := (Token.matchAt?_eq_some_iff htag).1 hm
      refine .inr ⟨[], text, rest, name, ⟨hs, htext, hs ▸ hm, FreeOf.nil tag _⟩, ?_⟩
      simp only [List.head?_cons, hs, List.nil_append, Text.utf8Length_append,
        Text.utf8Length_nil, Nat.add_sub_cancel, Nat.add_zero]
    | none =>
      simp only
      rcases ih (offset + c.utf8Size) with ⟨hnone, hfree⟩ |
        ⟨before, text, rest, name, ⟨rfl, htext, hrest, hfree⟩, hhead⟩
      · exact .inl ⟨hnone, freeOf_cons_iff.2 ⟨by rw [List.append_nil]; exact hm, hfree⟩⟩
      · refine .inr ⟨c :: before, text, rest, name,
          ⟨rfl, htext, hrest, freeOf_cons_iff.2 ⟨hm, hfree⟩⟩, ?_⟩
        rw [hhead, List.cons_append, Text.utf8Length_cons, Text.utf8Length_cons, Nat.add_assoc,
          Nat.add_assoc]

end Offsets

/-- The first closing token of a name by its offset is the one that `untilClosed?` finds. -/
theorem find?_closing (name s : List Char) (offset : Nat) :
    ((occurrencesFrom endifTag offset s).find? fun o => o.name == name) =
      (untilClosed? name s).map fun q =>
        ⟨offset + utf8Length q.1, offset + (utf8Length s - utf8Length q.2), name⟩ := by
  induction s generalizing offset with
  | nil => rfl
  | cons c s ih =>
    have hlater : ((occurrencesFrom endifTag (offset + c.utf8Size) s).find?
        fun o => o.name == name) =
          ((untilClosed? name s).map fun q => (c :: q.1, q.2)).map fun q =>
            (⟨offset + utf8Length q.1, offset + (utf8Length (c :: s) - utf8Length q.2), name⟩ :
              Occurrence) := by
      rw [ih, Option.map_map]
      cases hu : untilClosed? name s with
      | none => rfl
      | some q =>
        obtain ⟨close, -, hs⟩ := untilClosed?_spec hu
        have hlength := congrArg utf8Length hs
        simp only [Text.utf8Length_append] at hlength
        simp only [Option.map_some, Function.comp_apply, Text.utf8Length_cons, Option.some.injEq,
          Occurrence.mk.injEq, and_true]
        omega
    rw [occurrencesFrom, untilClosed?]
    cases hm : Token.matchAt? endifTag (c :: s) with
    | none => exact hlater
    | some p =>
      obtain ⟨n, after⟩ := p
      simp only
      by_cases hn : n = name
      · rw [if_pos hn, List.find?_cons_of_pos (by simpa using hn)]
        simp [hn]
      · rw [if_neg hn, List.find?_cons_of_neg (by simpa using hn)]
        exact hlater

/-! ### What one turn does -/

section Turns

variable {keep : String → Bool} {template : List Char} {s : Scan}
  {passed pending rest : List Char}

/-- The loop stands between three parts of the text: what it is done with, what it has searched
but not copied, and the rest.  What it will have written in the end is fixed all along. -/
structure Scan.At (keep : String → Bool) (template : List Char) (s : Scan)
    (passed pending rest : List Char) : Prop where
  text : template = passed ++ (pending ++ rest)
  cursor : s.cursor = utf8Length passed
  searchFrom : s.searchFrom = utf8Length passed + utf8Length pending
  out : s.out ++ (pending ++ resolve keep rest) = resolve keep template

theorem Scan.at_start (keep : String → Bool) (template : List Char) :
    Scan.At keep template Scan.start [] [] template := ⟨rfl, rfl, rfl, rfl⟩

namespace Scan.At

variable (h : Scan.At keep template s passed pending rest)

include h

theorem size : utf8Length template = s.searchFrom + utf8Length rest := by
  rw [h.text, h.searchFrom, Text.utf8Length_append, Text.utf8Length_append, Nat.add_assoc]

theorem firstFrom?_eq : firstFrom? ifTag s.searchFrom template =
    (occurrencesFrom ifTag s.searchFrom rest).head? := by
  have hsplit := @find?_occurrencesFrom_append ifTag (passed ++ pending) rest 0
  rw [Nat.zero_add, Text.utf8Length_append, ← h.searchFrom, List.append_assoc, ← h.text] at hsplit
  exact hsplit

theorem slice?_pending {a b : List Char} (hrest : rest = a ++ b) {stop : Nat}
    (hstop : stop = s.searchFrom + utf8Length a) :
    slice? template s.cursor stop = some (pending ++ a) := by
  have hlength : stop = s.cursor + utf8Length (pending ++ a) := by
    rw [hstop, h.searchFrom, h.cursor, Text.utf8Length_append, Nat.add_assoc]
  have hcut := Text.slice?_append passed (pending ++ a) b h.cursor hlength
  rw [h.text, hrest]
  simpa using hcut

theorem slice?_rest {a b c : List Char} (hrest : rest = a ++ (b ++ c)) {start stop : Nat}
    (hstart : start = s.searchFrom + utf8Length a) (hstop : stop = start + utf8Length b) :
    slice? template start stop = some b := by
  have hbefore : start = utf8Length (passed ++ (pending ++ a)) := by
    rw [hstart, h.searchFrom, Text.utf8Length_append, Text.utf8Length_append, Nat.add_assoc]
  have hcut := Text.slice?_append (passed ++ (pending ++ a)) b c hbefore hstop
  rw [h.text, hrest]
  simpa using hcut

theorem searchFrom_le : s.searchFrom ≤ utf8Length template := by
  rw [h.size]
  exact Nat.le_add_right _ _

/-- Without a further opening marker the rest is copied as it stands. -/
theorem turn_of_free (hnone : (occurrencesFrom ifTag s.searchFrom rest).head? = none)
    (hfree : FreeOf ifTag rest []) :
    s.turn keep template = some (.done (resolve keep template)) := by
  have hresolve := @resolve_append_of_free rest [] keep hfree
  rw [List.append_nil, resolve, List.append_nil] at hresolve
  have hslice := h.slice?_pending (List.append_nil rest).symm h.size
  have hout := h.out
  rw [hresolve] at hout
  simp only [Scan.turn, if_pos h.searchFrom_le, h.firstFrom?_eq, hnone, hslice, Option.map_some,
    hout]

section First

variable {before text more name : List Char} (hfirst : First ifTag rest before text more name)

include hfirst

theorem resolve_rest :
    resolve keep template = s.out ++ (pending ++ (before ++ resolve keep (text ++ more))) := by
  rw [← h.out, hfirst.split, resolve_append_of_free hfirst.free]

/-- The partner of the next opening marker is looked for in what follows it. -/
theorem turn_of_first (hhead : (occurrencesFrom ifTag s.searchFrom rest).head? =
      some ⟨s.searchFrom + utf8Length before, s.searchFrom + utf8Length (before ++ text), name⟩) :
    s.turn keep template =
      match (untilClosed? name more).map fun q =>
        (⟨0 + utf8Length q.1, 0 + (utf8Length more - utf8Length q.2), name⟩ : Occurrence) with
      | none => some (.goOn { s with searchFrom := s.searchFrom + utf8Length (before ++ text) })
      | some close => s.leave keep template ⟨s.searchFrom + utf8Length before,
          s.searchFrom + utf8Length (before ++ text), name⟩ close := by
  have htail : slice? template (s.searchFrom + utf8Length (before ++ text))
      (utf8Length template) = some more := by
    apply h.slice?_rest (a := before ++ text) (c := []) _ rfl
    · rw [h.size, hfirst.split, ← List.append_assoc, Text.utf8Length_append, Nat.add_assoc]
    · simp [hfirst.split]
  simp only [Scan.turn, if_pos h.searchFrom_le, h.firstFrom?_eq, hhead, htail, Option.bind_some,
    find?_closing]

/-- A marker without a partner is kept: it joins what is searched but not copied. -/
theorem of_unclosed (hu : untilClosed? name more = none) :
    Scan.At keep template { s with searchFrom := s.searchFrom + utf8Length (before ++ text) }
      passed (pending ++ (before ++ text)) more := by
  have hkept : resolve keep (text ++ more) = text ++ resolve keep more := by
    apply resolve_text_append hfirst.spelled
    rw [matchAt?_of_opening hfirst.read, hu, Option.map_none]
  refine ⟨?_, h.cursor, ?_, ?_⟩
  · simp [h.text, hfirst.split]
  · show s.searchFrom + _ = _
    rw [h.searchFrom, Text.utf8Length_append pending, Nat.add_assoc]
  · simp [h.resolve_rest hfirst, hkept]

/-- A region is left: what is pending is copied, and its body or nothing. -/
theorem exists_leave {body after : List Char} (hu : untilClosed? name more = some (body, after)) :
    ∃ s' passed', s.leave keep template ⟨s.searchFrom + utf8Length before,
          s.searchFrom + utf8Length (before ++ text), name⟩
        ⟨0 + utf8Length body, 0 + (utf8Length more - utf8Length after), name⟩ =
          some (.goOn s') ∧ Scan.At keep template s' passed' [] after := by
  obtain ⟨close, -, rfl⟩ := untilClosed?_spec hu
  have hregion : resolve keep (text ++ (body ++ (close ++ after))) =
      (if keep (String.ofList name) then body else []) ++ resolve keep after := by
    apply resolve_of_matchAt?
    rw [matchAt?_of_opening hfirst.read, hu, Option.map_some]
  have hbefore : slice? template s.cursor (s.searchFrom + utf8Length before) =
      some (pending ++ before) := h.slice?_pending hfirst.split rfl
  have hbody : slice? template (s.searchFrom + utf8Length (before ++ text))
      (s.searchFrom + utf8Length (before ++ text) + utf8Length body) = some body := by
    apply h.slice?_rest (a := before ++ text) (c := close ++ after) _ rfl rfl
    simp [hfirst.split]
  have hchosen : (if keep (String.ofList name) then
      slice? template (s.searchFrom + utf8Length (before ++ text))
        (s.searchFrom + utf8Length (before ++ text) + utf8Length body) else some []) =
        some (if keep (String.ofList name) then body else []) := by
    split
    · exact hbody
    · rfl
  simp only [Scan.leave, Nat.zero_add, hbefore, hchosen, Option.bind_some, Option.map_some]
  refine ⟨_, passed ++ (pending ++ (before ++ (text ++ (body ++ close)))), rfl, ?_, ?_, ?_, ?_⟩
  · simp [h.text, hfirst.split]
  · have := h.searchFrom
    simp only [Text.utf8Length_append]
    omega
  · have := h.searchFrom
    simp only [Text.utf8Length_append, Text.utf8Length_nil]
    omega
  · simp [h.resolve_rest hfirst, hregion]

end First

end Scan.At

/-- A turn ends the loop with the resolved text, or leaves less to be searched. -/
theorem Scan.turn_spec (h : Scan.At keep template s passed pending rest) :
    s.turn keep template = some (.done (resolve keep template)) ∨
      ∃ s' passed' pending' rest', s.turn keep template = some (.goOn s') ∧
        Scan.At keep template s' passed' pending' rest' ∧ rest'.length < rest.length := by
  rcases head?_occurrencesFrom ifTag_isNameChar rest s.searchFrom with
    ⟨hnone, hfree⟩ | ⟨before, text, more, name, hfirst, hhead⟩
  · exact .inl (h.turn_of_free hnone hfree)
  · right
    have hshorter := hfirst.length_lt
    rw [h.turn_of_first hfirst hhead]
    cases hu : untilClosed? name more with
    | none => exact ⟨_, _, _, more, rfl, h.of_unclosed hfirst hu, hshorter⟩
    | some q =>
      obtain ⟨s', passed', hleave, h'⟩ := h.exists_leave hfirst hu
      have hafter := length_of_untilClosed? hu
      exact ⟨s', passed', [], q.2, hleave, h', by omega⟩

/-- The loop ends within as many turns as there are characters to be searched, and one more. -/
theorem Scan.turns_spec (h : Scan.At keep template s passed pending rest) {n : Nat}
    (hn : rest.length < n) :
    Scan.turns keep template n s = some (.done (resolve keep template)) := by
  -- each turn that goes on leaves a shorter rest, so the turns do not run out before the text does
  induction n generalizing s passed pending rest with
  | zero => exact absurd hn (Nat.not_lt_zero _)
  | succ n ih =>
    rw [Scan.turns]
    rcases Scan.turn_spec h with hdone | ⟨s', _, _, _, hgoOn, h', hless⟩
    · rw [hdone]
    · rw [hgoOn]
      exact ih h' (by omega)

/-- **The loop resolves the regions of a text**, whatever its markers are, and cuts out no slice
that is not there. -/
theorem Scan.turns_start (keep : String → Bool) (template : List Char) :
    Scan.turns keep template (template.length + 1) Scan.start =
      some (.done (resolve keep template)) :=
  Scan.turns_spec (Scan.at_start keep template) (Nat.lt_succ_self _)

end Turns

/-! ### Conditional processing -/

/-- **What conditional processing does.**  The pieces of a template make it up, and each is a marker
or has none in it.  The regions are resolved by a walk over the pieces, which the loop with two
cursors carries out to its end, and the opening markers of the resulting text are deleted. -/
theorem process_eq_walk (template : String) (ctx : Context) :
    textOf (cut template.toList) = template.toList ∧
      (∀ p ∈ cut template.toList, p.Proper) ∧
      Scan.turns (Condition.evaluate ctx) template.toList (template.toList.length + 1) Scan.start =
        some (.done (walk (Condition.evaluate ctx) (cut template.toList))) ∧
      (process template ctx).toList =
        withoutOpenings (cut (walk (Condition.evaluate ctx) (cut template.toList))) := by
  refine ⟨textOf_cut _, proper_of_mem_cut _, ?_, ?_⟩
  · rw [← resolve_eq_walk]
    exact Scan.turns_start _ _
  · rw [process, String.toList_ofList, stripChars_eq_withoutOpenings, resolve_eq_walk]

/-- Two regions that cross: the one that opens first is resolved, and the closing marker of the
other one is left. -/
theorem process_eq_walk_crossing :
    let template := "é<PLACEHOLDER: IF_GO>a<PLACEHOLDER: IF_RUST>b<PLACEHOLDER:ENDIF_GO>" ++
      "<PLACEHOLDER: IF_CLI>c<PLACEHOLDER: ENDIF_RUST>"
    let ctx : Context := Dictionary.ofList [("primary_language", .text "go")]
    Piece.literal ['é'] ∈ cut template.toList ∧ (Piece.literal ['é']).Proper ∧
      Scan.turns (Condition.evaluate ctx) template.toList (template.toList.length + 1) Scan.start =
        some (.done ("éa<PLACEHOLDER: IF_RUST>b<PLACEHOLDER: IF_CLI>c" ++
          "<PLACEHOLDER: ENDIF_RUST>").toList) ∧
      (process template ctx).toList = "éabc<PLACEHOLDER: ENDIF_RUST>".toList := by
  intro template ctx
  obtain ⟨-, hproper, hloop, hprocess⟩ := process_eq_walk template ctx
  have hmem : Piece.literal ['é'] ∈ cut template.toList := by decide +kernel
  have hwalk : walk (Condition.evaluate ctx) (cut template.toList) =
      ("éa<PLACEHOLDER: IF_RUST>b<PLACEHOLDER: IF_CLI>c" ++
        "<PLACEHOLDER: ENDIF_RUST>").toList := by decide +kernel
  rw [hwalk] at hloop hprocess
  refine ⟨hmem, hproper _ hmem, hloop, hprocess.trans ?_⟩
  decide +kernel

end Region

end WorkspaceTemplates

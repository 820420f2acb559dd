/-
  WorkspaceTemplates/Proofs/Region/Piece.lean
  ===========================================
  **Conditional processing as a walk over the pieces of a template.**

  `cut` takes a template apart into literal text and markers, once and for all.
  What regions mean is then said of lists of pieces: `walk` goes from one piece to
  the next, and at an opening marker it looks for the nearest closing marker of the
  same name among the pieces that follow.  `Region.resolve` looks for tokens at
  every character instead.  It does the same (`resolve_eq_walk`), because a token
  has no `<` but its first character: nothing inside a piece starts a marker.
-/
import WorkspaceTemplates.Proofs.Region

namespace WorkspaceTemplates.Region

open Token

/-! ### Pieces -/

/-- A piece of a text.  A marker comes with the name of its condition and with its spelling. -/
inductive Piece where
  | literal (text : List Char)
  | opening (name text : List Char)
  | closing (name text : List Char)
deriving DecidableEq, Repr

namespace Piece

def text : Piece → List Char
  | literal t | opening _ t | closing _ t => t

def isOpening : Piece → Bool
  | opening _ _ => true
  | literal _ | closing _ _ => false

def isClosing (name : List Char) : Piece → Bool
  | closing n _ => n == name
  | literal _ | opening _ _ => false

end Piece

/-- The text that some pieces make up. -/
def textOf (ps : List Piece) : List Char := ps.flatMap Piece.text

@[simp] theorem textOf_nil : textOf [] = [] := rfl

@[simp] theorem textOf_cons (p : Piece) (ps : List Piece) :
    textOf (p :: ps) = p.text ++ textOf ps := rfl

/-- Read a marker at the head of a text. -/
def marker? (s : List Char) : Option (Piece × List Char) :=
  match Token.matchAt? ifTag s with
  | some (name, rest) => some (.opening name (s.take (s.length - rest.length)), rest)
  | none =>
    match Token.matchAt? endifTag s with
    | some (name, rest) => some (.closing name (s.take (s.length - rest.length)), rest)
    | none => none

/-- Put a character before some pieces, as literal text. -/
def lengthen (c : Char) : List Piece → List Piece
  | .literal t :: ps => .literal (c :: t) :: ps
  | ps => .literal [c] :: ps

theorem length_of_marker? {s after : List Char} {m : Piece} (h : marker? s = some (m, after)) :
    after.length < s.length := by
  unfold marker? at h
  split at h
  · rename_i hm
    cases h
    exact Token.length_of_matchAt? hm
  · split at h
    · rename_i hm
      cases h
      exact Token.length_of_matchAt? hm
    · cases h

/-- The pieces of a text, in order. -/
def cut (s : List Char) : List Piece :=
  match s with
  | [] => []
  | c :: rest =>
    match _h : marker? (c :: rest) with
    | some (m, after) => m :: cut after
    | none => lengthen c (cut rest)
termination_by s.length
decreasing_by
  · exact length_of_marker? ‹_›
  · simp

/-! ### What the regions of a text mean -/

/-- From the left: at an opening marker with a closing marker of its name further on, take the
nearest one, emit what is between them as it stands or nothing, and go on after it; emit every
other piece. -/
def walk (keep : String → Bool) (ps : List Piece) : List Char :=
  match ps with
  | [] => []
  | .opening name text :: rest =>
    if rest.any (Piece.isClosing name) then
      (if keep (String.ofList name) then
        textOf (rest.takeWhile fun p => !p.isClosing name) else []) ++
        walk keep (rest.dropWhile fun p => !p.isClosing name).tail
    else text ++ walk keep rest
  | p :: rest => p.text ++ walk keep rest
termination_by ps.length
decreasing_by
  · have := (List.dropWhile_sublist (fun p => !Piece.isClosing name p) (l := rest)).length_le
    simp only [List.length_tail, List.length_cons]
    omega
  · simp
  · simp

/-- The text of some pieces without the opening markers among them. -/
def withoutOpenings (ps : List Piece) : List Char :=
  textOf (ps.filter fun p => !p.isOpening)

/-! ### The pieces that are cut -/

/-- What a piece may be: a marker spelled as a token, or literal text in which no marker stands. -/
def Piece.Proper : Piece → Prop
  | literal t => t ≠ [] ∧ ∀ name, name ≠ [] →
      ¬ Occurs (ifTag ++ name) t ∧ ¬ Occurs (endifTag ++ name) t
  | opening name t => name ≠ [] ∧ Spells (ifTag ++ name) t
  | closing name t => name ≠ [] ∧ Spells (endifTag ++ name) t

theorem take_of_matchAt? {tag s name rest : List Char} (htag : ∀ c ∈ tag, isNameChar c = true)
    (h : Token.matchAt? tag s = some (name, rest)) :
    name ≠ [] ∧ Spells (tag ++ name) (s.take (s.length - rest.length)) ∧
      s = s.take (s.length - rest.length) ++ rest := by
  obtain ⟨hne, text, htext, rfl⟩ := (Token.matchAt?_eq_some_iff htag).1 h
  have htake : (text ++ rest).take ((text ++ rest).length - rest.length) = text := by
    rw [List.length_append, Nat.add_sub_cancel, List.take_left]
  rw [htake]
  exact ⟨hne, htext, rfl⟩

/-- A marker that is read is one, and stands at the head of the text. -/
theorem marker?_spec {s after : List Char} {m : Piece} (h : marker? s = some (m, after)) :
    s = m.text ++ after ∧ m.Proper ∧
      ((∃ name, m = .opening name m.text ∧ Token.matchAt? ifTag s = some (name, after)) ∨
        ∃ name, m = .closing name m.text ∧ Token.matchAt? ifTag s = none ∧
          Token.matchAt? endifTag s = some (name, after)) := by
  unfold marker? at h
  split at h
  · rename_i name rest hm
    cases h
    obtain ⟨hne, hspells, hs⟩ := take_of_matchAt? ifTag_isNameChar hm
    exact ⟨hs, ⟨hne, hspells⟩, .inl ⟨name, rfl, hm⟩⟩
  · rename_i hif
    split at h
    · rename_i name rest hm
      cases h
      obtain ⟨hne, hspells, hs⟩ := take_of_matchAt? endifTag_isNameChar hm
      exact ⟨hs, ⟨hne, hspells⟩, .inr ⟨name, rfl, hif, hm⟩⟩
    · cases h

theorem marker?_eq_none_iff {s : List Char} :
    marker? s = none ↔ Token.matchAt? ifTag s = none ∧ Token.matchAt? endifTag s = none := by
  unfold marker?
  split
  · rename_i hm
    simp [hm]
  · rename_i hm
    split
    · rename_i he
      simp [he]
    · rename_i he
      simp [hm, he]

@[simp] theorem textOf_lengthen (c : Char) (ps : List Piece) :
    textOf (lengthen c ps) = c :: textOf ps := by
  unfold lengthen
  split <;> simp [Piece.text]

/-- Nothing of a text is lost when it is cut. -/
theorem textOf_cut (s : List Char) : textOf (cut s) = s := by
  fun_induction cut s with
  | case1 => rfl
  | case2 c rest m after hm ih =>
    obtain ⟨hs, -⟩ := marker?_spec hm
    rw [textOf_cons, ih, ← hs]
  | case3 c rest _ ih => rw [textOf_lengthen, ih]

theorem proper_cons {c : Char} {t q : List Char} (ht : t = [] ∨ (Piece.literal t).Proper)
    (hc : marker? (c :: (t ++ q)) = none) : (Piece.literal (c :: t)).Proper := by
  obtain ⟨hif, hendif⟩ := marker?_eq_none_iff.1 hc
  -- a marker that starts here would be read in the longer text too
  have hhead : ∀ {tag name : List Char}, (∀ c ∈ tag, isNameChar c = true) → name ≠ [] →
      Token.matchAt? tag (c :: (t ++ q)) = none → ¬ Occurs (tag ++ name) t →
      ¬ Occurs (tag ++ name) (c :: t) := by
    intro tag name htag hne hnone hrest hoccurs
    rcases occurs_cons_iff.1 hoccurs with ⟨rest, hm⟩ | hoccurs
    · have hlonger := (matchAt?_eq_some_iff_nil htag).2 ⟨hne, matchAt?_append_of_eq_some hm q⟩
      rw [List.cons_append, hnone] at hlonger
      cases hlonger
    · exact hrest hoccurs
  refine ⟨List.cons_ne_nil c t, ?_⟩
  intro name hne
  rcases ht with rfl | ⟨-, ht⟩
  · exact ⟨hhead ifTag_isNameChar hne hif (not_occurs_nil _),
      hhead endifTag_isNameChar hne hendif (not_occurs_nil _)⟩
  · exact ⟨hhead ifTag_isNameChar hne hif (ht name hne).1,
      hhead endifTag_isNameChar hne hendif (ht name hne).2⟩

/-- Every piece is a marker, or literal text without one. -/
theorem proper_of_mem_cut (s : List Char) : ∀ p ∈ cut s, p.Proper := by
  fun_induction cut s with
  | case1 => simp
  | case2 c rest m after hm ih =>
    obtain ⟨-, hproper, -⟩ := marker?_spec hm
    simp only [List.mem_cons]
    rintro p (rfl | hp)
    · exact hproper
    · exact ih p hp
  | case3 c rest hm ih =>
    have hrest := textOf_cut rest
    unfold lengthen
    split
    · rename_i t ps hcut
      rw [hcut] at ih hrest
      simp only [List.mem_cons] at ih ⊢
      rintro p (rfl | hp)
      · rw [← hrest] at hm
        exact proper_cons (.inr (ih _ (.inl rfl))) hm
      · exact ih p (.inr hp)
    · simp only [List.mem_cons]
      rintro p (rfl | hp)
      · exact proper_cons (q := rest) (.inl rfl) hm
      · exact ih p hp

/-! ### Nothing starts inside a piece -/

section Skip

variable {u s : List Char}

theorem untilClosed?_append {name : List Char} (hu : '<' ∉ u) :
    untilClosed? name (u ++ s) = (untilClosed? name s).map fun p => (u ++ p.1, p.2) := by
  induction u with
  | nil => simp
  | cons c u ih =>
    rw [List.mem_cons, not_or] at hu
    rw [List.cons_append, untilClosed?, matchAt?_of_head_ne endifTag_isNameChar (Ne.symm hu.1),
      ih hu.2, Option.map_map]
    rfl

theorem resolve_cons_of_matchAt? {keep : String → Bool} {c : Char}
    (h : matchAt? (c :: s) = none) : resolve keep (c :: s) = c :: resolve keep s := by
  rw [resolve]
  split
  · rename_i hm
    rw [h] at hm
    cases hm
  · rfl

/-- Text in which no opening marker starts is kept. -/
theorem resolve_append_of_free {keep : String → Bool} (h : FreeOf ifTag u s) :
    resolve keep (u ++ s) = u ++ resolve keep s := by
  induction u with
  | nil => rfl
  | cons c u ih =>
    obtain ⟨hhead, hrest⟩ := freeOf_cons_iff.1 h
    have hregion : matchAt? (c :: (u ++ s)) = none := by
      rw [matchAt?, hhead, Option.bind_none]
    rw [List.cons_append, resolve_cons_of_matchAt? hregion, ih hrest, List.cons_append]

theorem resolve_append {keep : String → Bool} (hu : '<' ∉ u) :
    resolve keep (u ++ s) = u ++ resolve keep s :=
  resolve_append_of_free (freeOf_of_not_mem ifTag_isNameChar hu)

end Skip

/-! ### Looking for a closing marker among pieces -/

section Closing

variable {name : List Char}

theorem any_lengthen (c : Char) (ps : List Piece) :
    (lengthen c ps).any (Piece.isClosing name) = ps.any (Piece.isClosing name) := by
  unfold lengthen
  split <;> simp [Piece.isClosing]

theorem textOf_takeWhile_lengthen (c : Char) (ps : List Piece) :
    textOf ((lengthen c ps).takeWhile fun p => !p.isClosing name) =
      c :: textOf (ps.takeWhile fun p => !p.isClosing name) := by
  unfold lengthen
  split <;> simp [Piece.isClosing, Piece.text]

theorem dropWhile_lengthen (c : Char) (ps : List Piece) :
    ((lengthen c ps).dropWhile fun p => !p.isClosing name) =
      ps.dropWhile fun p => !p.isClosing name := by
  unfold lengthen
  split <;> simp [Piece.isClosing]

/-- A piece that does not close the name is passed over. -/
theorem untilClosed?_text_append {p : Piece} {s : List Char} (hp : p.Proper)
    (hclosing : p.isClosing name = false)
    (hmarker : p.isOpening = true ∨ ∃ n, p = .closing n p.text) :
    untilClosed? name (p.text ++ s) =
      (untilClosed? name s).map fun q => (p.text ++ q.1, q.2) := by
  -- a marker is a `<` and a tail without one; its name is another one, so the search goes on
  have hpass : ∀ {n text : List Char}, Spells n text → n ≠ endifTag ++ name →
      untilClosed? name (text ++ s) = (untilClosed? name s).map fun q => (text ++ q.1, q.2) := by
    intro n text htext hne
    obtain ⟨tail, rfl, htail⟩ := htext.exists_cons
    have hlater : (untilClosed? name (tail ++ s)).map (fun q => ('<' :: q.1, q.2)) =
        (untilClosed? name s).map fun q => ('<' :: tail ++ q.1, q.2) := by
      rw [untilClosed?_append htail, Option.map_map]
      rfl
    rw [List.cons_append, untilClosed?, hlater]
    split
    · rename_i m after hm
      rw [if_neg]
      rintro rfl
      obtain ⟨-, text', htext', hs⟩ := (Token.matchAt?_eq_some_iff endifTag_isNameChar).1 hm
      have hsame := htext'.matchAt?_append after
      rw [← hs, ← List.cons_append, htext.matchAt?_append s] at hsame
      exact hne (Prod.mk.inj (Option.some.inj hsame)).1
    · rfl
  cases p with
  | literal t =>
    rcases hmarker with h | ⟨n, h⟩
    · cases h
    · cases h
  | opening n t =>
    refine hpass hp.2 ?_
    intro heq
    cases (List.cons.inj heq).1
  | closing n t =>
    refine hpass hp.2 ?_
    intro heq
    rw [List.append_cancel_left heq] at hclosing
    simp [Piece.isClosing] at hclosing

/-- The closing marker that the search finds in a text is the first one among its pieces. -/
theorem untilClosed?_eq_cut (name s : List Char) :
    (untilClosed? name s).map (fun q => (q.1, cut q.2)) =
      if (cut s).any (Piece.isClosing name) then
        some (textOf ((cut s).takeWhile fun p => !p.isClosing name),
          ((cut s).dropWhile fun p => !p.isClosing name).tail)
      else none := by
  fun_induction cut s with
  | case1 => rfl
  | case2 c rest m after hm ih =>
    obtain ⟨hs, hproper, hkind⟩ := marker?_spec hm
    by_cases hclosing : m.isClosing name = true
    · -- this is the marker that is looked for
      have hend : Token.matchAt? endifTag (c :: rest) = some (name, after) := by
        rcases hkind with ⟨n, heq, -⟩ | ⟨n, heq, -, hend⟩
        · rw [heq] at hclosing
          cases hclosing
        · rw [heq] at hclosing
          rw [hend, beq_iff_eq.1 hclosing]
      rw [untilClosed?, hend]
      simp [hclosing]
    · have hother : m.isClosing name = false := by simpa using hclosing
      have hmarker : m.isOpening = true ∨ ∃ n, m = .closing n m.text := by
        rcases hkind with ⟨n, heq, -⟩ | ⟨n, heq, -⟩
        · exact .inl (by rw [heq]; rfl)
        · exact .inr ⟨n, heq⟩
      have hmap := congrArg (Option.map fun q => (m.text ++ q.1, q.2)) ih
      rw [Option.map_map] at hmap
      rw [hs, untilClosed?_text_append hproper hother hmarker, Option.map_map,
        List.any_cons, hother, Bool.false_or, List.takeWhile_cons_of_pos (by simp [hother]),
        List.dropWhile_cons_of_pos (by simp [hother]), textOf_cons]
      refine hmap.trans ?_
      split <;> rfl
  | case3 c rest hm ih =>
    have hmap := congrArg (Option.map fun q => (c :: q.1, q.2)) ih
    rw [Option.map_map] at hmap
    rw [untilClosed?, (marker?_eq_none_iff.1 hm).2, any_lengthen, textOf_takeWhile_lengthen,
      dropWhile_lengthen, Option.map_map]
    refine hmap.trans ?_
    split <;> rfl

end Closing

/-! ### The two agree -/

section Agree

variable {keep : String → Bool}

theorem walk_cons_of_not_opening {p : Piece} {ps : List Piece} (h : p.isOpening = false) :
    walk keep (p :: ps) = p.text ++ walk keep ps := by
  cases p with
  | opening n t => cases h
  | literal t => rw [walk]; exact fun _ _ h => nomatch h
  | closing n t => rw [walk]; exact fun _ _ h => nomatch h

theorem walk_lengthen (c : Char) (ps : List Piece) :
    walk keep (lengthen c ps) = c :: walk keep ps := by
  unfold lengthen
  split
  · rw [walk_cons_of_not_opening rfl, walk_cons_of_not_opening rfl]
    rfl
  · rw [walk_cons_of_not_opening rfl]
    rfl

theorem matchAt?_of_opening {s name inside : List Char}
    (h : Token.matchAt? ifTag s = some (name, inside)) :
    matchAt? s = (untilClosed? name inside).map fun q => (name, q.1, q.2) := by
  rw [matchAt?, h]
  rfl

/-- A token that does not start a region is kept. -/
theorem resolve_text_append {name text s : List Char} (htext : Spells name text)
    (h : matchAt? (text ++ s) = none) : resolve keep (text ++ s) = text ++ resolve keep s := by
  obtain ⟨tail, rfl, htail⟩ := htext.exists_cons
  rw [List.cons_append] at h ⊢
  rw [resolve_cons_of_matchAt? h, resolve_append htail, List.cons_append]

theorem resolve_of_matchAt? {s name body after : List Char}
    (h : matchAt? s = some (name, body, after)) :
    resolve keep s = (if keep (String.ofList name) then body else []) ++ resolve keep after := by
  cases s with
  | nil => cases h
  | cons c rest =>
    rw [resolve]
    split
    · rename_i hm
      rw [h] at hm
      cases hm
      rfl
    · rename_i hm
      rw [h] at hm
      cases hm

/-- **Resolving the regions of a text is a walk over its pieces.** -/
theorem resolve_eq_walk (keep : String → Bool) (s : List Char) :
    resolve keep s = walk keep (cut s) := by
  cases s with
  | nil => rw [resolve, cut, walk]
  | cons c rest =>
    rw [cut]
    split
    · rename_i m after hm
      obtain ⟨hs, hproper, hkind⟩ := marker?_spec hm
      have hshorter := length_of_marker? hm
      have hafter := resolve_eq_walk keep after
      rcases hkind with ⟨name, heq, hif⟩ | ⟨name, heq, hif, -⟩
      · -- an opening marker: whether it has a partner is the same question in both views
        rw [heq] at hproper ⊢
        have hclosed := untilClosed?_eq_cut name after
        rw [walk]
        cases hu : untilClosed? name after with
        | none =>
          have hnone : matchAt? (m.text ++ after) = none := by
            rw [← hs, matchAt?_of_opening hif, hu, Option.map_none]
          rw [hu] at hclosed
          by_cases hany : (cut after).any (Piece.isClosing name) = true
          · rw [if_pos hany] at hclosed
            cases hclosed
          · rw [if_neg hany, hs, resolve_text_append hproper.2 hnone, hafter]
        | some q =>
          obtain ⟨body, later⟩ := q
          have hregion : matchAt? (c :: rest) = some (name, body, later) := by
            rw [matchAt?_of_opening hif, hu, Option.map_some]
          have hlater := length_of_matchAt? hregion
          rw [hu] at hclosed
          by_cases hany : (cut after).any (Piece.isClosing name) = true
          · rw [if_pos hany] at hclosed ⊢
            obtain ⟨hbody, htail⟩ := Prod.mk.inj (Option.some.inj hclosed)
            rw [resolve_of_matchAt? hregion, resolve_eq_walk keep later, ← hbody, ← htail]
          · rw [if_neg hany] at hclosed
            cases hclosed
      · -- a closing marker that no region has taken up
        have hnone : matchAt? (m.text ++ after) = none := by
          rw [← hs, matchAt?, hif, Option.bind_none]
        rw [heq] at hproper
        rw [walk_cons_of_not_opening (by rw [heq]; rfl), hs,
          resolve_text_append hproper.2 hnone, hafter]
    · rename_i hm
      have hnone : matchAt? (c :: rest) = none := by
        rw [matchAt?, (marker?_eq_none_iff.1 hm).1, Option.bind_none]
      rw [resolve_cons_of_matchAt? hnone, walk_lengthen, resolve_eq_walk keep rest]
termination_by s.length
decreasing_by
  · exact hshorter
  · exact hlater
  · exact Nat.lt_succ_self rest.length

theorem withoutOpenings_lengthen (c : Char) (ps : List Piece) :
    withoutOpenings (lengthen c ps) = c :: withoutOpenings ps := by
  unfold lengthen
  split <;> simp [withoutOpenings, Piece.isOpening, Piece.text]

/-- Stripping a text deletes the opening markers among its pieces. -/
theorem stripChars_eq_withoutOpenings (s : List Char) :
    stripChars s = withoutOpenings (cut s) := by
  rw [stripChars]
  fun_induction cut s with
  | case1 => rw [replaceAll]; rfl
  | case2 c rest m after hm ih =>
    obtain ⟨hs, hproper, ⟨name, heq, hif⟩ | ⟨name, heq, hif, -⟩⟩ := marker?_spec hm
    · rw [replaceAll_of_matchAt? hif, ih, heq]
      rfl
    · rw [heq] at hproper
      obtain ⟨tail, htail, hfree⟩ := hproper.2.exists_cons
      have hkept : withoutOpenings (m :: cut after) = m.text ++ withoutOpenings (cut after) := by
        rw [heq]
        rfl
      rw [hkept, ← ih, hs, htail, List.cons_append, List.cons_append]
      rw [hs, htail, List.cons_append] at hif
      rw [replaceAll_of_matchAt?_eq_none hif,
        replaceAll_append_of_free (freeOf_of_not_mem ifTag_isNameChar hfree)]
  | case3 c rest hm ih =>
    rw [withoutOpenings_lengthen, ← ih,
      replaceAll_of_matchAt?_eq_none (marker?_eq_none_iff.1 hm).1]

end Agree

end WorkspaceTemplates.Region

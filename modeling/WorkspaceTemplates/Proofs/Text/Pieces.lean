/-
  WorkspaceTemplates/Proofs/Text/Pieces.lean
  ==========================================
  **Cutting a text at a separator, and joining texts.**

  The pieces of a text have no separator in them and are made of its characters.  What
  stands before the first separator is the first piece, and blanks that are put behind
  a text are blanks behind some of its pieces (`getD_pieces_append`).  In texts that are
  joined by a separator each of them starts where the lengths of those before it and of
  the separators end (`drop_intercalate`).
-/
import WorkspaceTemplates.Text.Blank
import WorkspaceTemplates.Text.Pieces
import Mathlib.Algebra.Ring.Nat
import Mathlib.Data.List.Induction

namespace WorkspaceTemplates.Text

/-- Cutting at a separator is what the standard library does. -/
theorem pieces_eq_splitOn (sep : Char) (s : List Char) : pieces sep s = s.splitOn sep := by
  induction s with
  | nil => rfl
  | cons c s ih =>
    rw [pieces, List.splitOn_cons_eq_if_modifyHead, ih]
    by_cases hc : c = sep
    · rw [if_pos hc, if_pos (beq_iff_eq.2 hc)]
    · rw [if_neg hc, if_neg (by simpa using hc)]
      cases hs : s.splitOn sep with
      | nil => exact absurd hs (List.splitOn_ne_nil sep s)
      | cons p ps => rfl

/-- Texts without the separator, joined by it, are the pieces of the whole. -/
theorem pieces_intercalate {sep : Char} {ps : List (List Char)} (h : ∀ p ∈ ps, sep ∉ p)
    (hne : ps ≠ []) : pieces sep ([sep].intercalate ps) = ps := by
  rw [pieces_eq_splitOn, List.splitOn_intercalate sep h hne]

theorem not_mem_of_mem_pieces {sep : Char} {s l : List Char} (h : l ∈ pieces sep s) :
    sep ∉ l := by
  rw [pieces_eq_splitOn] at h
  induction s generalizing l with
  | nil =>
    rw [List.splitOn_nil, List.mem_singleton] at h
    rw [h]
    exact List.not_mem_nil
  | cons c s ih =>
    rw [List.splitOn_cons_eq_if_modifyHead] at h
    by_cases hc : c = sep
    · rw [if_pos (beq_iff_eq.2 hc)] at h
      rcases List.mem_cons.1 h with rfl | h
      · exact List.not_mem_nil
      · exact ih h
    · rw [if_neg (by simpa using hc)] at h
      cases hs : s.splitOn sep with
      | nil => exact absurd hs (List.splitOn_ne_nil sep s)
      | cons q qs =>
        rw [hs] at h ih
        rcases List.mem_cons.1 h with rfl | h
        · intro hmem
          rcases List.mem_cons.1 hmem with rfl | hmem
          · exact hc rfl
          · exact ih List.mem_cons_self hmem
        · exact ih (List.mem_cons_of_mem q h)

theorem pieces_ne_nil (sep : Char) (s : List Char) : pieces sep s ≠ [] := by
  rw [pieces_eq_splitOn]
  exact List.splitOn_ne_nil sep s

theorem pieces_cons_of_ne {sep c : Char} (hc : c ≠ sep) (s : List Char) :
    pieces sep (c :: s) = (c :: (pieces sep s).headD []) :: (pieces sep s).tail := by
  rw [pieces, if_neg hc]
  cases hs : pieces sep s with
  | nil => exact absurd hs (pieces_ne_nil sep s)
  | cons p ps => rfl

theorem mem_of_mem_pieces {sep c : Char} {s p : List Char} (hp : p ∈ pieces sep s) (hc : c ∈ p) :
    c ∈ s := by
  induction s generalizing p with
  | nil =>
    rw [pieces, List.mem_singleton] at hp
    rwa [hp] at hc
  | cons d s ih =>
    by_cases hd : d = sep
    · rw [pieces, if_pos hd] at hp
      rcases List.mem_cons.1 hp with rfl | hp
      · cases hc
      · exact List.mem_cons_of_mem d (ih hp hc)
    · rw [pieces_cons_of_ne hd] at hp
      obtain ⟨q, qs, hq⟩ := List.exists_cons_of_ne_nil (pieces_ne_nil sep s)
      rw [hq] at hp ih
      rcases List.mem_cons.1 hp with rfl | hp
      · rcases List.mem_cons.1 hc with rfl | hc
        · exact List.mem_cons_self
        · exact List.mem_cons_of_mem d (ih List.mem_cons_self hc)
      · exact List.mem_cons_of_mem d (ih (List.mem_cons_of_mem q hp) hc)

/-! ### Joining -/

section Joining

variable {α β : Type}

theorem map_intercalate (f : α → β) (sep : List α) (ws : List (List α)) :
    (sep.intercalate ws).map f = (sep.map f).intercalate (ws.map (List.map f)) := by
  induction ws with
  | nil => rfl
  | cons w ws ih =>
    cases ws with
    | nil => simp
    | cons v ws =>
      rw [List.intercalate_cons_cons, List.map_append, List.map_append, ih, List.map_cons,
        List.map_cons, List.map_cons, List.intercalate_cons_cons]

theorem mem_intercalate {a : α} {sep : List α} {ws : List (List α)}
    (h : a ∈ sep.intercalate ws) : a ∈ sep ∨ ∃ w ∈ ws, a ∈ w := by
  induction ws with
  | nil => cases h
  | cons w ws ih =>
    cases ws with
    | nil =>
      rw [List.intercalate_singleton] at h
      exact .inr ⟨w, List.mem_cons_self, h⟩
    | cons v ws =>
      rw [List.intercalate_cons_cons, List.mem_append, List.mem_append] at h
      rcases h with (h | h) | h
      · exact .inr ⟨w, List.mem_cons_self, h⟩
      · exact .inl h
      · exact (ih h).imp id fun ⟨u, hu, ha⟩ => ⟨u, List.mem_cons_of_mem w hu, ha⟩

/-- What a joined text goes on with at the start of one of its parts. -/
theorem drop_intercalate (sep : List α) {bs : List (List α)} {j : Nat}
    (hj : j < bs.length) :
    (sep.intercalate bs).drop (((bs.take j).map fun b => b.length + sep.length).sum) =
      sep.intercalate (bs.drop j) := by
  induction j generalizing bs with
  | zero => rfl
  | succ j ih =>
    match bs, hj with
    | b :: c :: bs, hj =>
      have hlater := ih (Nat.lt_of_succ_lt_succ hj)
      rw [List.take_succ_cons, List.map_cons, List.sum_cons, List.drop_succ_cons, ← hlater,
        List.intercalate_cons_cons, ← List.drop_drop, ← List.length_append, List.drop_left]

theorem length_intercalate (sep : List α) {bs : List (List α)} (hbs : bs ≠ []) :
    (sep.intercalate bs).length + sep.length = (bs.map fun b => b.length + sep.length).sum := by
  induction bs with
  | nil => exact absurd rfl hbs
  | cons b bs ih =>
    cases bs with
    | nil => simp
    | cons c bs =>
      rw [List.map_cons, List.sum_cons, ← ih (List.cons_ne_nil c bs), List.intercalate_cons_cons,
        List.length_append, List.length_append, Nat.add_assoc]

end Joining

/-! ### Searching -/

theorem occursIn_iff {needle s : List Char} : occursIn needle s = true ↔ needle <:+: s := by
  induction s with
  | nil => simp [occursIn]
  | cons c s ih =>
    rw [occursIn, Bool.or_eq_true, ih, List.isPrefixOf_iff_prefix, List.infix_cons_iff]

/-! ### Pieces by their number -/

theorem getD_pieces_cons_of_ne {sep c : Char} (hc : c ≠ sep) (s : List Char) (n : Nat) :
    (pieces sep (c :: s))[n]?.getD [] =
      if n = 0 then c :: (pieces sep s)[0]?.getD [] else (pieces sep s)[n]?.getD [] := by
  rw [pieces_cons_of_ne hc]
  cases hs : pieces sep s with
  | nil => exact absurd hs (pieces_ne_nil sep s)
  | cons p ps => cases n <;> simp

theorem getD_pieces_zero (sep : Char) (s : List Char) :
    (pieces sep s)[0]?.getD [] = s.takeWhile fun c => c != sep := by
  induction s with
  | nil => rfl
  | cons c s ih =>
    by_cases hc : c = sep
    · simp [pieces, hc]
    · rw [getD_pieces_cons_of_ne hc, if_pos rfl, ih, List.takeWhile_cons_of_pos (by simpa using hc)]

theorem getD_pieces_append {sep : Char} {b : List Char} (hb : ∀ c ∈ b, isBlank c = true)
    (s : List Char) (n : Nat) :
    ∃ b', (∀ c ∈ b', isBlank c = true) ∧
      (pieces sep (s ++ b))[n]?.getD [] = (pieces sep s)[n]?.getD [] ++ b' := by
  induction s generalizing n with
  | nil =>
    refine ⟨(pieces sep b)[n]?.getD [], ?_, by cases n <;> simp [pieces]⟩
    intro c hc
    cases hp : (pieces sep b)[n]? with
    | none =>
      rw [hp] at hc
      cases hc
    | some p =>
      rw [hp] at hc
      exact hb c (mem_of_mem_pieces (List.mem_of_getElem? hp) hc)
  | cons c s ih =>
    rw [List.cons_append]
    by_cases hc : c = sep
    · rw [pieces, pieces, if_pos hc, if_pos hc]
      cases n with
      | zero => exact ⟨[], by simp, rfl⟩
      | succ n => exact ih n
    · rw [getD_pieces_cons_of_ne hc, getD_pieces_cons_of_ne hc]
      split
      · obtain ⟨b', hb', heq⟩ := ih 0
        exact ⟨b', hb', by rw [heq, List.cons_append]⟩
      · exact ih n

end WorkspaceTemplates.Text

/-
  WorkspaceTemplates/Proofs/Token/Cut.lean
  ========================================
  **A text cut at its tokens.**

  Between its tokens a text is plain: no token starts there.  `Cut` says this of a
  text and of its tokens, without a reader, and every text has a cut (`exists_cut`).
  Whatever goes through a text from token to token is then said of the cut: the
  offsets at which `occurrencesFrom` finds the tokens, their names, and the text
  that `replaceAll` makes.
-/
import WorkspaceTemplates.Proofs.Token.Replace

namespace WorkspaceTemplates.Token

open Text (utf8Length)

/-- A token of a text: the plain text before it, its name and its spelling. -/
structure Slot where
  before : List Char
  name : List Char
  text : List Char

/-- The text that has `f slot` in the place of each token. -/
def filled (f : Slot → List Char) (slots : List Slot) (tail : List Char) : List Char :=
  (slots.flatMap fun slot => slot.before ++ f slot) ++ tail

/-- The places of some tokens that stand in a text one after the other, from an offset. -/
def placed (offset : Nat) : List Slot → List Occurrence
  | [] => []
  | slot :: slots =>
    let stop := offset + utf8Length (slot.before ++ slot.text)
    ⟨offset + utf8Length slot.before, stop, slot.name⟩ :: placed stop slots

/-- A text is plain text and tokens in turn, and plain text at the end. -/
inductive Cut : List Char → List Slot → List Char → Prop where
  | plain {tail : List Char} (hfree : FreeOf [] tail []) : Cut tail [] tail
  | slot {before name text s tail : List Char} {slots : List Slot}
      (hfree : FreeOf [] before (text ++ s)) (htext : Spells name text) (hcut : Cut s slots tail) :
      Cut (before ++ (text ++ s)) (⟨before, name, text⟩ :: slots) tail

/-- A character that no token starts with belongs to the plain text after it. -/
theorem Cut.cons {c : Char} {s tail : List Char} {slots : List Slot}
    (h : matchAt? [] (c :: s) = none) (hcut : Cut s slots tail) :
    ∃ slots' tail', Cut (c :: s) slots' tail' := by
  cases hcut with
  | plain hfree =>
    refine ⟨[], c :: s, .plain (freeOf_cons_iff.2 ⟨?_, hfree⟩)⟩
    rw [List.append_nil]
    exact h
  | slot hfree htext hcut =>
    exact ⟨_, _, .slot (freeOf_cons_iff.2 ⟨h, hfree⟩) htext hcut⟩

theorem exists_cut (s : List Char) : ∃ slots tail, Cut s slots tail := by
  -- the cut follows a pass that goes on right after each token
  fun_induction replaceAll [] id s with
  | case1 => exact ⟨[], [], .plain (FreeOf.nil [] [])⟩
  | case2 c rest name after hm ih =>
    obtain ⟨slots, tail, hcut⟩ := ih
    obtain ⟨text, htext, hs⟩ := matchAt?_nil_eq_some_iff.1 hm
    rw [hs, ← List.nil_append (text ++ after)]
    exact ⟨_, _, .slot (FreeOf.nil [] _) htext hcut⟩
  | case3 c rest hm ih =>
    obtain ⟨slots, tail, hcut⟩ := ih
    exact hcut.cons hm

/-! ### Where the tokens are found -/

theorem occurrencesFrom_append_of_free {tag u s : List Char} (h : FreeOf tag u s) (offset : Nat) :
    occurrencesFrom tag offset (u ++ s) = occurrencesFrom tag (offset + utf8Length u) s := by
  induction u generalizing offset with
  | nil => rfl
  | cons c u ih =>
    obtain ⟨hhead, hrest⟩ := freeOf_cons_iff.1 h
    rw [List.cons_append, occurrencesFrom, hhead]
    simp only
    rw [ih hrest, Text.utf8Length_cons, Nat.add_assoc]

/-- A token is found where it starts, and nothing is found inside it. -/
theorem occurrencesFrom_text_append {name text : List Char} (htext : Spells name text)
    (s : List Char) (offset : Nat) :
    occurrencesFrom [] offset (text ++ s) =
      ⟨offset, offset + utf8Length text, name⟩ ::
        occurrencesFrom [] (offset + utf8Length text) s := by
  have hm := htext.matchAt?_append s
  obtain ⟨rest, rfl, hrest⟩ := htext.exists_cons
  have hinside : FreeOf [] rest s := freeOf_of_not_mem (by simp) hrest
  rw [List.cons_append] at hm ⊢
  rw [occurrencesFrom, hm, occurrencesFrom_append_of_free hinside]
  simp only [Text.utf8Length_cons, Text.utf8Length_append, List.cons.injEq, Occurrence.mk.injEq,
    Nat.add_assoc, and_true, true_and]
  omega

theorem replaceAll_text_append {name text : List Char} (htext : Spells name text)
    (f : List Char → List Char) (s : List Char) :
    replaceAll [] f (text ++ s) = f name ++ replaceAll [] f s := by
  have hm := htext.matchAt?_append s
  obtain ⟨rest, rfl, -⟩ := htext.exists_cons
  exact replaceAll_of_matchAt? hm

theorem map_name_placed (offset : Nat) (slots : List Slot) :
    (placed offset slots).map Occurrence.name = slots.map Slot.name := by
  induction slots generalizing offset with
  | nil => rfl
  | cons slot slots ih => rw [placed, List.map_cons, List.map_cons, ih]

namespace Cut

variable {s tail : List Char} {slots : List Slot}

/-- The text of a cut is the text that was cut. -/
theorem filled_text (h : Cut s slots tail) : filled Slot.text slots tail = s := by
  induction h with
  | plain => rfl
  | slot hfree htext hcut ih =>
    rw [filled] at ih
    rw [filled, List.flatMap_cons, List.append_assoc, ih, List.append_assoc]

theorem spells (h : Cut s slots tail) : ∀ slot ∈ slots, Spells slot.name slot.text := by
  induction h with
  | plain => simp
  | slot hfree htext hcut ih => exact List.forall_mem_cons.2 ⟨htext, ih⟩

/-- **The tokens of a cut are all the tokens of the text**, each at its own place. -/
theorem occurrencesFrom_eq (h : Cut s slots tail) (offset : Nat) :
    occurrencesFrom [] offset s = placed offset slots := by
  induction h generalizing offset with
  | plain hfree =>
    have hnone := occurrencesFrom_append_of_free hfree offset
    rwa [List.append_nil] at hnone
  | slot hfree htext hcut ih =>
    rw [occurrencesFrom_append_of_free hfree, occurrencesFrom_text_append htext, ih, placed,
      Text.utf8Length_append, Nat.add_assoc]

theorem allNames_eq (h : Cut s slots tail) :
    allNames s = slots.map fun slot => String.ofList slot.name := by
  have hnames := congrArg (List.map String.ofList) (map_name_placed 0 slots)
  rw [List.map_map, List.map_map] at hnames
  rw [allNames, h.occurrencesFrom_eq]
  exact hnames

/-- Replacing every token is filling in its place; the plain text is kept. -/
theorem replaceAll_eq (h : Cut s slots tail) (f : List Char → List Char) :
    replaceAll [] f s = filled (fun slot => f slot.name) slots tail := by
  induction h with
  | plain hfree =>
    have hkept := replaceAll_append_of_free (f := f) hfree
    rw [List.append_nil, replaceAll, List.append_nil] at hkept
    exact hkept
  | slot hfree htext hcut ih =>
    rw [replaceAll_append_of_free hfree, replaceAll_text_append htext, ih, filled, filled,
      List.flatMap_cons, List.append_assoc, List.append_assoc]

end Cut

end WorkspaceTemplates.Token

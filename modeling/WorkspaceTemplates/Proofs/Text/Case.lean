/-
  WorkspaceTemplates/Proofs/Text/Case.lean
  ========================================
  **Upper and lower case of ASCII texts.**

  The case mappings follow the tables of Unicode, and lowering a capital sigma looks
  at its neighbours.  None of this shows in ASCII text: it is mapped character by
  character, and a small letter that was raised is lowered to itself again.
-/
import Mathlib
import WorkspaceTemplates.Text.Case

namespace WorkspaceTemplates.Text

/-! ### Letters -/

section Letter

variable {c : Char}

theorem toNat_lt_of_isLower (h : c.isLower = true) : c.toNat < 0x80 := by
  simp only [Char.isLower, Bool.and_eq_true, decide_eq_true_eq, UInt32.le_iff_toNat_le] at h
  exact Nat.lt_of_le_of_lt h.2 (by decide)

theorem toNat_lt_of_isUpper (h : c.isUpper = true) : c.toNat < 0x80 := by
  simp only [Char.isUpper, decide_eq_true_eq, UInt32.le_iff_toNat_le] at h
  exact Nat.lt_of_le_of_lt h.2 (by decide)

theorem isUpper_toUpper_of_isLower (h : c.isLower = true) : c.toUpper.isUpper = true := by
  rw [Char.isUpper_toUpper_eq_isAlpha, Char.isAlpha, h, Bool.or_true]

theorem toLower_of_isLower (h : c.isLower = true) : c.toLower = c :=
  Char.toLower_eq_of_not_isUpper (Char.not_isUpper_of_isLower h)

theorem toLower_toUpper_of_isLower (h : c.isLower = true) : c.toUpper.toLower = c := by
  rw [Char.toLower_toUpper_eq_toLower, toLower_of_isLower h]

end Letter

/-! ### Texts -/

/-- All characters are ASCII characters. -/
def IsAscii (s : List Char) : Prop := ∀ c ∈ s, c.toNat < 0x80

theorem isAscii_of_isLower {s : List Char} (h : ∀ c ∈ s, c.isLower = true) : IsAscii s :=
  fun c hc => toNat_lt_of_isLower (h c hc)

theorem lowerChar_of_ascii {c : Char} (h : c.toNat < 0x80) : lowerChar c = [c.toLower] :=
  if_pos h

theorem upperChar_of_ascii {c : Char} (h : c.toNat < 0x80) : upperChar c = [c.toUpper] :=
  if_pos h

theorem lowerFrom_of_isAscii {s : List Char} (h : IsAscii s) (before : List Char) :
    lowerFrom before s = s.map Char.toLower := by
  induction s generalizing before with
  | nil => rfl
  | cons c s ih =>
    obtain ⟨hc, hs⟩ := List.forall_mem_cons.1 h
    have hsigma : c ≠ 'Σ' := by
      rintro rfl
      exact absurd hc (by decide)
    rw [lowerFrom, if_neg hsigma, lowerChar_of_ascii hc, ih hs]
    rfl

/-- An ASCII text is lowered character by character. -/
theorem lower_ofList_of_isAscii {s : List Char} (h : IsAscii s) :
    lower (String.ofList s) = String.ofList (s.map Char.toLower) := by
  rw [lower, String.toList_ofList, lowerFrom_of_isAscii h]

theorem flatMap_lowerChar_of_isLower {s : List Char} (h : ∀ c ∈ s, c.isLower = true) :
    s.flatMap lowerChar = s := by
  induction s with
  | nil => rfl
  | cons c s ih =>
    obtain ⟨hc, hs⟩ := List.forall_mem_cons.1 h
    rw [List.flatMap_cons, lowerChar_of_ascii (toNat_lt_of_isLower hc), toLower_of_isLower hc,
      ih hs]
    rfl

/-- Capitalizing a word of small letters raises the first one. -/
theorem capitalizeChars_of_isLower {c : Char} {s : List Char} (hc : c.isLower = true)
    (hs : ∀ d ∈ s, d.isLower = true) : capitalizeChars (c :: s) = c.toUpper :: s := by
  rw [capitalizeChars, upperChar_of_ascii (toNat_lt_of_isLower hc), flatMap_lowerChar_of_isLower hs]
  rfl

end WorkspaceTemplates.Text

/-
  WorkspaceTemplates/Proofs/Json/Lexical.lean
  ===========================================
  **Reading the strings and integers that were written.**

  A written string is read up to its own closing quote, and a written integer up to
  the first character that cannot go on with a number.  The reader keeps an integer
  exactly if it has 64 bits.
-/
import WorkspaceTemplates.Json.Reader
import WorkspaceTemplates.Json.Writer

namespace WorkspaceTemplates.Json

/-! ### Strings -/

namespace Lexical

theorem hexValue?_hexDigit : ∀ n < 16, hexValue? (hexDigit n) = some n := by decide

theorem string?_escapeChar (fuel : Nat) (taken : List Char) (c : Char) (rest : List Char) :
    string? (fuel + 1) taken (escapeChar c ++ rest) = string? fuel (c :: taken) rest := by
  unfold escapeChar
  split
  · rfl
  · rfl
  · rfl
  · rfl
  · rfl
  · rfl
  · rfl
  · rename_i hquote hslash _ _ _ _ _
    split
    · rename_i hlow
      have hhigh := hexValue?_hexDigit (c.toNat / 16) (by omega)
      have hmod := hexValue?_hexDigit (c.toNat % 16) (by omega)
      have hsum : ((0 * 16 + 0) * 16 + c.toNat / 16) * 16 + c.toNat % 16 = c.toNat := by omega
      have hread : unicodeEscape?
          ('0' :: '0' :: hexDigit (c.toNat / 16) :: hexDigit (c.toNat % 16) :: rest) =
            some (c, rest) := by
        rw [unicodeEscape?, hex4?, hhigh, hmod]
        simp only [show hexValue? '0' = some 0 from rfl, hsum]
        rw [if_neg (by omega), if_neg (by omega), Char.ofNat_toNat]
      simp only [List.cons_append, List.nil_append]
      rw [string?, hread]
    · rename_i hplain
      rw [List.singleton_append, string?.eq_def]
      simp only
      split
      · rename_i heq
        cases heq
      · rename_i heq
        exact absurd (List.cons.inj heq).1 hquote
      · rename_i heq
        exact absurd (List.cons.inj heq).1 hslash
      · rename_i heq
        exact absurd (List.cons.inj heq).1 hslash
      · rename_i heq
        obtain ⟨rfl, rfl⟩ := List.cons.inj heq
        rw [if_neg]
        rintro (hlow | rfl)
        · exact hplain hlow
        · exact hslash rfl

/-- A written string is read up to its closing quote. -/
theorem string?_flatMap_escapeChar {fuel : Nat} {cs : List Char} (hfuel : cs.length < fuel)
    (taken rest : List Char) :
    string? fuel taken (cs.flatMap escapeChar ++ '"' :: rest) =
      some (String.ofList (taken.reverse ++ cs), rest) := by
  induction cs generalizing fuel taken with
  | nil =>
    obtain ⟨fuel, rfl⟩ := Nat.exists_eq_add_of_lt hfuel
    rw [List.append_nil]
    rfl
  | cons c cs ih =>
    obtain ⟨fuel, rfl⟩ := Nat.exists_eq_succ_of_ne_zero (Nat.ne_zero_of_lt hfuel)
    rw [List.flatMap_cons, List.append_assoc, string?_escapeChar,
      ih (Nat.lt_of_succ_lt_succ hfuel), List.reverse_cons, List.append_assoc,
      List.singleton_append]

theorem length_le_length_flatMap_escapeChar (cs : List Char) :
    cs.length ≤ (cs.flatMap escapeChar).length := by
  induction cs with
  | nil => exact Nat.le_refl 0
  | cons c cs ih =>
    have hc : 1 ≤ (escapeChar c).length := by
      unfold escapeChar
      split
      · decide
      · decide
      · decide
      · decide
      · decide
      · decide
      · decide
      · split
        · exact Nat.le_add_left 1 5
        · exact Nat.le_refl 1
    rw [List.flatMap_cons, List.length_append, List.length_cons]
    omega

/-- What follows the opening quote of a written string is read as the string. -/
theorem string?_quoted (s : String) (rest : List Char) :
    string? ((s.toList.flatMap escapeChar ++ '"' :: rest).length + 1) []
      (s.toList.flatMap escapeChar ++ '"' :: rest) = some (s, rest) := by
  have hlen := length_le_length_flatMap_escapeChar s.toList
  rw [string?_flatMap_escapeChar, List.reverse_nil, List.nil_append, String.ofList_toList]
  rw [List.length_append, List.length_cons]
  omega

end Lexical

/-! ### Integers -/

/-- No character that a text starts with goes on with a number. -/
def EndsNumber (rest : List Char) : Prop :=
  ∀ c ∈ rest.head?, c.isDigit = false ∧ c ≠ '.' ∧ c ≠ 'e' ∧ c ≠ 'E'

namespace Reader

theorem takeDigits_of_lt {ds : List Char} {n : Nat} (h : Nat.ofDigitChars 10 ds n < UInt64.size) :
    takeDigits n ds = (Nat.ofDigitChars 10 ds n, ds.length, []) := by
  induction ds generalizing n with
  | nil => rfl
  | cons d ds ih =>
    rw [Nat.ofDigitChars_cons, Nat.mul_comm 10 n] at h
    have hge : n * 10 + (d.toNat - '0'.toNat) ≤
        Nat.ofDigitChars 10 ds (n * 10 + (d.toNat - '0'.toNat)) := by
      rw [Nat.ofDigitChars_eq_ofDigitChars_zero]
      have hpow : 1 ≤ 10 ^ ds.length := Nat.one_le_pow _ _ (by decide)
      have hmul := Nat.mul_le_mul_right (n * 10 + (d.toNat - '0'.toNat)) hpow
      omega
    rw [takeDigits, ih h, Nat.ofDigitChars_cons, Nat.mul_comm 10 n]
    rw [if_neg (by omega)]
    rfl

theorem toDigits_of_pos {n : Nat} (hn : 0 < n) :
    ∃ c cs, Nat.toDigits 10 n = c :: cs ∧ c ≠ '0' := by
  induction n using Nat.strongRecOn with
  | ind n ih =>
    by_cases hsmall : n < 10
    · have hdigit : ∀ m < 10, 0 < m → m.digitChar ≠ '0' := by decide
      exact ⟨n.digitChar, [], Nat.toDigits_of_lt_base hsmall, hdigit n hsmall hn⟩
    · obtain ⟨c, cs, hcs, hc⟩ := ih (n / 10) (by omega) (by omega)
      refine ⟨c, cs ++ Nat.toDigits 10 (n % 10), ?_, hc⟩
      rw [← List.cons_append, ← hcs, Nat.toDigits_of_base_le (by decide) (by omega),
        Nat.toDigits_of_lt_base (Nat.mod_lt n (by decide))]

theorem isDigit_of_mem_toDigits (n : Nat) : ∀ c ∈ Nat.toDigits 10 n, c.isDigit = true :=
  fun _ hc => Nat.isDigit_of_mem_toDigits (by decide) (by decide) hc

theorem takeWhile_toDigits (n : Nat) {rest : List Char} (h : EndsNumber rest) :
    (Nat.toDigits 10 n ++ rest).takeWhile Char.isDigit = Nat.toDigits 10 n ∧
      (Nat.toDigits 10 n ++ rest).dropWhile Char.isDigit = rest := by
  have hall := isDigit_of_mem_toDigits n
  rw [List.takeWhile_append_of_pos hall, List.dropWhile_append_of_pos hall]
  cases rest with
  | nil => exact ⟨List.append_nil _, rfl⟩
  | cons c rest =>
    have hc : ¬ c.isDigit = true := by rw [(h c rfl).1]; exact Bool.false_ne_true
    rw [List.takeWhile_cons_of_neg hc, List.dropWhile_cons_of_neg hc]
    exact ⟨List.append_nil _, rfl⟩

theorem exponent?_of_endsNumber {rest : List Char} (h : EndsNumber rest) :
    Lexical.exponent? rest = some (none, rest) := by
  cases rest with
  | nil => rfl
  | cons c rest =>
    obtain ⟨-, -, he, hE⟩ := h c rfl
    unfold Lexical.exponent?
    exact if_neg (not_or.2 ⟨he, hE⟩)

/-- The digits of a number below `2^64` are read as the number. -/
theorem unsigned?_toDigits {n : Nat} {rest : List Char} (hn : n < UInt64.size)
    (h : EndsNumber rest) (negative : Bool) :
    unsigned? negative (Nat.toDigits 10 n ++ rest) =
      if !negative then some (.natural n, rest)
      else if n = 0 then some (.real (Binary64.zero true), rest)
      else if n ≤ Decimal.twoPow 63 then some (.negative n, rest)
      else (Binary64.ofNat? n).map fun x => (.real x.neg, rest) := by
  obtain ⟨htake, hdrop⟩ := takeWhile_toDigits n h
  have hvalue : Nat.ofDigitChars 10 (Nat.toDigits 10 n) 0 = n := Nat.ofDigitChars_ten_toDigits
  have hdigits := takeDigits_of_lt (hvalue.symm ▸ hn)
  rw [hvalue] at hdigits
  rw [unsigned?]
  simp only
  rw [htake, hdrop]
  split
  · rename_i hnil
    exact absurd hnil Nat.toDigits_ne_nil
  · rename_i hzero
    by_cases hpos : 0 < n
    · obtain ⟨c, cs, hcs, hc⟩ := toDigits_of_pos hpos
      rw [hcs] at hzero
      exact absurd (List.cons.inj hzero).1 hc
    · obtain rfl := Nat.eq_zero_of_not_pos hpos
      cases hzero
  · rw [hdigits]
    split
    · rename_i more
      exact absurd rfl (h '.' rfl).2.1
    · rw [exponent?_of_endsNumber h]
      rfl

theorem number?_natural {n : Nat} {rest : List Char} (hn : n < UInt64.size)
    (h : EndsNumber rest) :
    number? ((numberText (.natural n)).toList ++ rest) = some (.natural n, rest) := by
  have hminus : ∀ more, Nat.toDigits 10 n ++ rest ≠ '-' :: more := by
    intro more heq
    obtain ⟨c, cs, hcs⟩ := List.exists_cons_of_ne_nil (Nat.toDigits_ne_nil (n := n) (b := 10))
    have hc := isDigit_of_mem_toDigits n c (by rw [hcs]; exact List.mem_cons_self)
    rw [hcs] at heq
    rw [(List.cons.inj heq).1] at hc
    exact absurd hc (by decide)
  rw [numberText, Nat.toList_repr, number?.eq_def]
  split
  · rename_i heq
    exact absurd heq (hminus _)
  · rw [unsigned?_toDigits hn h]
    rfl

theorem number?_negative {n : Nat} {rest : List Char} (hpos : 0 < n)
    (hn : n ≤ Decimal.twoPow 63) (h : EndsNumber rest) :
    number? ((numberText (.negative n)).toList ++ rest) = some (.negative n, rest) := by
  have hsize : n < UInt64.size := Nat.lt_of_le_of_lt hn (by decide)
  rw [numberText, String.toList_append, Nat.toList_repr]
  show unsigned? true (Nat.toDigits 10 n ++ rest) = _
  rw [unsigned?_toDigits hsize h, if_neg (by decide), if_neg (Nat.ne_of_gt hpos), if_pos hn]

end Reader

end WorkspaceTemplates.Json

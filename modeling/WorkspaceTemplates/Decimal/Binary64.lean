/-
  WorkspaceTemplates/Decimal/Binary64.lean
  ========================================
  **Finite numbers of the binary64 format.**

  A number is a sign, a mantissa below `2^53` and a binary exponent of at least
  `-1074`.  A ratio is rounded to the nearest such number, ties to an even
  mantissa; products and quotients are rounded from their exact values.  All
  arithmetic is on natural numbers, so every result can be computed in a proof.
-/
import WorkspaceTemplates.Decimal.Power

namespace WorkspaceTemplates

open Decimal (twoPow tenPow)

/-- The number `mantissa * 2^exponent`, negated if `negative`. -/
structure Binary64 where
  negative : Bool
  mantissa : Nat
  exponent : Int
deriving DecidableEq, Repr

namespace Binary64

def minExponent : Int := -1074

def maxExponent : Int := 971

def leadingBit : Nat := twoPow 52

def zero (negative : Bool) : Binary64 := ⟨negative, 0, minExponent⟩

def isZero (x : Binary64) : Bool := x.mantissa == 0

def neg (x : Binary64) : Binary64 := { x with negative := !x.negative }

/-- Equality of numbers, for which the two zeros are the same. -/
def same (x y : Binary64) : Bool :=
  (x.isZero && y.isZero) || decide (x = y)

/-! ### Rounding -/

/-- The quotient rounded to the nearest natural number, ties to the even one. -/
def roundDiv (num den : Nat) : Nat :=
  let q := num / den
  let r := num % den
  if 2 * r < den then q
  else if den < 2 * r then q + 1
  else if q % 2 = 0 then q else q + 1

/-- Numerator and denominator of a ratio divided by `2^k`. -/
def scaleDown (num den : Nat) (k : Int) : Nat × Nat :=
  match k with
  | .ofNat n => (num, den * twoPow n)
  | .negSucc n => (num * twoPow (n + 1), den)

/-- The greatest `k` with `2^k` at most the ratio, which must be positive. -/
def floorLog2 (num den : Nat) : Int :=
  -- the quotient of the leading powers is right or one too large
  let guess : Int := num.log2 - den.log2
  let (n, d) := scaleDown num den guess
  if d ≤ n then guess else guess - 1

/-- The number nearest to a ratio, unless it is too large. -/
def ofRatio? (negative : Bool) (num den : Nat) : Option Binary64 :=
  if num = 0 then some (zero negative)
  else
    let exponent := max (floorLog2 num den - 52) minExponent
    let (n, d) := scaleDown num den exponent
    let m := roundDiv n d
    -- rounded up, the mantissa can have a bit too many
    let (m, exponent) := if m = 2 * leadingBit then (leadingBit, exponent + 1) else (m, exponent)
    if maxExponent < exponent then none else some ⟨negative, m, exponent⟩

def ofNat? (n : Nat) : Option Binary64 := ofRatio? false n 1

/-! ### Arithmetic -/

/-- Numerator and denominator of the absolute value of a number. -/
def ratio (x : Binary64) : Nat × Nat :=
  scaleDown x.mantissa 1 (-x.exponent)

/-- The rounded product, unless it is too large. -/
def mul? (x y : Binary64) : Option Binary64 :=
  let (a, b) := x.ratio
  let (c, d) := y.ratio
  ofRatio? (x.negative != y.negative) (a * c) (b * d)

/-- The rounded quotient by a non-zero number, unless it is too large. -/
def div? (x y : Binary64) : Option Binary64 :=
  let (a, b) := x.ratio
  let (c, d) := y.ratio
  ofRatio? (x.negative != y.negative) (a * d) (b * c)

/-! ### Decimal numerals -/

/-- The number nearest to `digits * 10^exponent`, unless it is too large.  The first two tests
    only spare the computation of powers that cannot matter. -/
def ofDecimal? (negative : Bool) (digits : Nat) (exponent : Int) : Option Binary64 :=
  let size : Int := digits.log2 / 3 + 1
  if digits = 0 then some (zero negative)
  else if 1000 < exponent then none
  else if exponent + size < -1000 then some (zero negative)
  else
    match exponent with
    | .ofNat n => ofRatio? negative (digits * tenPow n) 1
    | .negSucc n => ofRatio? negative digits (tenPow (n + 1))

/-! ### Encoding -/

def toBits (x : Binary64) : Nat :=
  (if x.negative then twoPow 63 else 0) +
    (if x.mantissa < leadingBit then x.mantissa
      else (x.exponent - minExponent + 1).toNat * leadingBit + (x.mantissa - leadingBit))

end Binary64

end WorkspaceTemplates

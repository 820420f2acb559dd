/-
  WorkspaceTemplates/Decimal/Shortest.lean
  ========================================
  **The shortest decimal text of a number.**

  A binary64 number is written with the fewest decimal digits that read back as
  the same number, and of those with the digits nearest to it.  `shortest` tries
  one digit, two digits and so on: the two neighbours of the number on the grid of
  that many digits are compared with the interval of reals that round to it.
  `layout` then places the point: numbers from `10^-5` up to `10^16` are written
  out, others with an exponent.
-/
import WorkspaceTemplates.Decimal.Binary64

namespace WorkspaceTemplates.Decimal

/-! ### The digits -/

/-- The reals that round to a number, scaled to natural numbers: the number itself, the two ends,
    and whether the ends belong to it; a real `x` corresponds to `x * unit`. -/
structure Interval where
  low : Nat
  value : Nat
  high : Nat
  unit : Nat
  closed : Bool

def interval (x : Binary64) : Interval :=
  -- below a power of two the next number is only half as far away
  let below :=
    if x.mantissa = Binary64.leadingBit ∧ Binary64.minExponent < x.exponent then 1 else 2
  let (up, unit) := Binary64.scaleDown 1 1 (2 - x.exponent)
  { low := (4 * x.mantissa - below) * up
    value := 4 * x.mantissa * up
    high := (4 * x.mantissa + 2) * up
    unit := unit
    closed := x.mantissa % 2 = 0 }

/-- Whether `digits * 10^exponent` lies in the interval; `scale` is the pair of powers by which
    the two sides are multiplied. -/
def Interval.holds (i : Interval) (left right : Nat) (digits : Nat) : Bool :=
  let p := digits * left
  let lo := i.low * right
  let hi := i.high * right
  if i.closed then lo ≤ p && p ≤ hi else lo < p && p < hi

def tenPowerLe (k : Int) (num den : Nat) : Bool :=
  match k with
  | .ofNat n => den * tenPow n ≤ num
  | .negSucc n => den ≤ num * tenPow (n + 1)

/-- The exponent `k` with `10^k ≤ value < 10^(k + 1)`, searched upwards from `k`. -/
def decimalExponent (num den : Nat) : Nat → Int → Int
  | 0, k => k
  | fuel + 1, k =>
    if tenPowerLe (k + 1) num den then decimalExponent num den fuel (k + 1) else k

/-- Digits and exponent of the nearest point in the interval on the grid of `n` digits, where
    the first digit has the place `10^k`. -/
def onGrid? (i : Interval) (k : Int) (n : Nat) : Option (Nat × Int) :=
  let exponent := k - n + 1
  let (left, right) :=
    match exponent with
    | .ofNat e => (tenPow e * i.unit, 1)
    | .negSucc e => (i.unit, tenPow (e + 1))
  let d := i.value * right / left
  let lower := i.holds left right d
  let upper := i.holds left right (d + 1)
  let rest := i.value * right - d * left
  let preferUpper := left < 2 * rest || (2 * rest == left && d % 2 == 1)
  if lower && upper then some (if preferUpper then d + 1 else d, exponent)
  else if lower then some (d, exponent)
  else if upper then some (d + 1, exponent)
  else none

/-- The shortest digits of a positive number, with the exponent of the last digit. -/
def shortest (x : Binary64) : Nat × Int :=
  let i := interval x
  let (num, den) := x.ratio
  -- a little below the logarithm of base ten, so that few steps upwards are enough
  let guess : Int := Binary64.floorLog2 num den * 30103 / 100000 - 2
  let k := decimalExponent num den 4 guess
  ((List.range 17).findSome? fun n => onGrid? i k (n + 1)).getD (0, 0)

/-! ### The layout -/

def zeros (n : Nat) : String := String.ofList (List.replicate n '0')

/-- Place the point in digits whose last one has the place `10^exponent`. -/
def layout (digits : Nat) (exponent : Int) : String :=
  let ds := digits.repr.toList
  let point : Int := ds.length + exponent
  if 0 ≤ exponent ∧ point ≤ 16 then String.ofList ds ++ zeros exponent.toNat ++ ".0"
  else if 0 < point ∧ point ≤ 16 then
    String.ofList (ds.take point.toNat) ++ "." ++ String.ofList (ds.drop point.toNat)
  else if -5 < point ∧ point ≤ 0 then "0." ++ zeros (-point).toNat ++ String.ofList ds
  else
    let fraction := if ds.length = 1 then "" else "." ++ String.ofList (ds.drop 1)
    String.ofList (ds.take 1) ++ fraction ++ "e" ++ (point - 1).repr

def text (x : Binary64) : String :=
  (if x.negative then "-" else "") ++
    (if x.isZero then "0.0" else let (digits, exponent) := shortest x; layout digits exponent)

/-! ### One decimal place -/

/-- A number that is not negative with one digit after the point, a tie going to the even one. -/
def oneDecimal (x : Binary64) : String :=
  let (num, den) := x.ratio
  let tenths := Binary64.roundDiv (num * 10) den
  (tenths / 10).repr ++ "." ++ (tenths % 10).repr

end WorkspaceTemplates.Decimal

/-
  WorkspaceTemplates/Json/Reader.lean
  ===================================
  **Reading JSON.**

  A recursive reader over the characters of a text.  What the wanted shape leaves
  out is passed over; of the rest, arrays and objects may nest 127 deep.  Integers
  of 64 bits are kept exactly; any other number becomes a binary64 number, computed
  as the format's fast rule has it: its first digits, as many as fit 64 bits, are
  rounded and then multiplied or divided by a rounded power of ten, so the last bit
  may differ from the nearest number.  A number too large for binary64 is refused.
-/
import WorkspaceTemplates.Json.Basic
import WorkspaceTemplates.Json.Ignored
import WorkspaceTemplates.Json.Shape

namespace WorkspaceTemplates.Json.Reader

open Lexical

/-! ### Numbers -/

def digitsValue (ds : List Char) : Nat :=
  ds.foldl (fun n c => n * 10 + (c.toNat - '0'.toNat)) 0

/-- Take digits while the value, starting from `n`, stays below `2^64`; give the value, the
    number of digits taken, and the digits that are left. -/
def takeDigits (n : Nat) : List Char → Nat × Nat × List Char
  | [] => (n, 0, [])
  | d :: rest =>
    let n' := n * 10 + (d.toNat - '0'.toNat)
    if UInt64.size ≤ n' then (n, 0, d :: rest)
    else
      let (m, count, left) := takeDigits n' rest
      (m, count + 1, left)

/-- Multiply or divide a number by a power of ten.  Very small exponents are reached in steps of
    `10^308`. -/
def scaleByTen? (x : Binary64) (exponent : Int) : Option Binary64 :=
  if h : exponent < -308 then
    if x.isZero then some x
    else (Binary64.ofNat? (Decimal.tenPow 308)).bind fun p => (x.div? p).bind fun y =>
      scaleByTen? y (exponent + 308)
  else if 308 < exponent then (if x.isZero then some x else none)
  else
    match exponent with
    | .ofNat n => (Binary64.ofNat? (Decimal.tenPow n)).bind fun p => x.mul? p
    | .negSucc n => (Binary64.ofNat? (Decimal.tenPow (n + 1))).bind fun p => x.div? p
termination_by (-exponent).toNat
decreasing_by omega

def maxExponent : Nat := Decimal.twoPow 31 - 1

/-- The binary64 number of a significand and an exponent part; `written` is the exponent that
    stands in the text, with its sign. -/
def real? (negative : Bool) (significand : Nat) (exponent : Int)
    (written : Option (Bool × List Char)) : Option Binary64 :=
  let signed := fun (x : Binary64) => if negative then x.neg else x
  match written with
  | none => ((Binary64.ofNat? significand).bind (scaleByTen? · exponent)).map signed
  | some (down, ds) =>
    let n := digitsValue ds
    if maxExponent < n then
      if significand ≠ 0 ∧ !down then none else some (Binary64.zero negative)
    else
      let total := if down then exponent - n else exponent + n
      let total := max (-(maxExponent : Int) - 1) (min maxExponent total)
      ((Binary64.ofNat? significand).bind (scaleByTen? · total)).map signed

def unsigned? (negative : Bool) (s : List Char) : Option (Number × List Char) :=
  let whole := s.takeWhile Char.isDigit
  let rest := s.dropWhile Char.isDigit
  match whole with
  | [] => none
  -- no digit follows a zero at the start
  | '0' :: _ :: _ => none
  | _ =>
    let (significand, _, left) := takeDigits 0 whole
    match rest with
    | '.' :: more =>
      let fraction := more.takeWhile Char.isDigit
      if fraction.isEmpty then none
      else
        let (significand, places, _) := takeDigits significand fraction
        (exponent? (more.dropWhile Char.isDigit)).bind fun (written, rest) =>
          (real? negative significand (left.length - places) written).map fun x =>
            (.real x, rest)
    | _ =>
      (exponent? rest).bind fun (written, rest) =>
        if written.isNone && left.isEmpty then
          if !negative then some (.natural significand, rest)
          -- there is no negative zero among the integers
          else if significand = 0 then some (.real (Binary64.zero true), rest)
          else if significand ≤ Decimal.twoPow 63 then some (.negative significand, rest)
          else (Binary64.ofNat? significand).map fun x => (.real x.neg, rest)
        else
          (real? negative significand left.length written).map fun x => (.real x, rest)

def number? (s : List Char) : Option (Number × List Char) :=
  match s with
  | '-' :: rest => unsigned? true rest
  | _ => unsigned? false s

/-! ### Values -/

mutual

/-- Read a value of a shape.  `fuel` bounds the number of steps and `depth` the nesting that is
    left. -/
def value? (fuel depth : Nat) (shape : Shape) (s : List Char) : Option (Json × List Char) :=
  match fuel with
  | 0 => none
  | fuel + 1 =>
    match skipSpace s with
    | 'n' :: 'u' :: 'l' :: 'l' :: rest => some (.null, rest)
    | 't' :: 'r' :: 'u' :: 'e' :: rest => some (.bool true, rest)
    | 'f' :: 'a' :: 'l' :: 's' :: 'e' :: rest => some (.bool false, rest)
    | '"' :: rest => (Lexical.string? (rest.length + 1) [] rest).map fun (t, r) => (.string t, r)
    | '[' :: rest =>
      if depth ≤ 1 then none
      else
        match skipSpace rest with
        | ']' :: rest => some (.array [], rest)
        | rest => (items? fuel (depth - 1) shape 0 rest).map fun (js, r) => (.array js, r)
    | '\x7b' :: rest =>
      if depth ≤ 1 then none
      else
        match skipSpace rest with
        | '\x7d' :: rest => some (.object [], rest)
        | rest => (members? fuel (depth - 1) shape rest).map fun (ms, r) => (.object ms, r)
    | rest => (number? rest).map fun (n, r) => (.number n, r)

/-- Read the items of an array of a shape, from the one of a place on, and its closing bracket. -/
def items? (fuel depth : Nat) (shape : Shape) (place : Nat) (s : List Char) :
    Option (List Json × List Char) :=
  match fuel with
  | 0 => none
  | fuel + 1 =>
    match value? fuel depth (shape.item place) s with
    | none => none
    | some (j, rest) =>
      match skipSpace rest with
      | ',' :: rest =>
        (items? fuel depth shape (place + 1) rest).map fun (js, r) => (j :: js, r)
      | ']' :: rest => some ([j], rest)
      | _ => none

/-- Read the members of an object of a shape and its closing brace.  Members that the shape leaves
    out are dropped. -/
def members? (fuel depth : Nat) (shape : Shape) (s : List Char) :
    Option (List (String × Json) × List Char) :=
  match fuel with
  | 0 => none
  | fuel + 1 =>
    match skipSpace s with
    | '"' :: rest =>
      match Lexical.string? (rest.length + 1) [] rest with
      | none => none
      | some (k, rest) =>
        match skipSpace rest with
        | ':' :: rest =>
          let member :=
            match shape.member? k with
            | some shape => (value? fuel depth shape rest).map fun (j, r) => ([(k, j)], r)
            | none => (Ignored.value? rest).map fun r => ([], r)
          match member with
          | none => none
          | some (m, rest) =>
            match skipSpace rest with
            | ',' :: rest => (members? fuel depth shape rest).map fun (ms, r) => (m ++ ms, r)
            | '\x7d' :: rest => some (m, rest)
            | _ => none
        | _ => none
    | _ => none

end

end WorkspaceTemplates.Json.Reader

namespace WorkspaceTemplates.Json

def nestingLimit : Nat := 128

/-- Read a JSON text of a shape, what is left out aside, that nests less than `depth` deep. -/
def parseShape? (shape : Shape) (depth : Nat) (text : String) : Option Json :=
  let s := text.toList
  match Reader.value? (2 * s.length + 2) depth shape s with
  | some (j, rest) => if (Lexical.skipSpace rest).isEmpty then some j else none
  | none => none

def parse? (text : String) : Option Json := parseShape? .whole nestingLimit text

end WorkspaceTemplates.Json

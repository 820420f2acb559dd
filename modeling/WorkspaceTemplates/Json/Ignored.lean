/-
  WorkspaceTemplates/Json/Ignored.lean
  ====================================
  **Passing over JSON values.**

  A value that is left out has to follow the grammar and no more: it may nest to
  any depth, its numbers may be of any size, and its strings may hold escapes of
  lone surrogates.  The collections around the present place are kept in a list,
  the innermost first.
-/
import WorkspaceTemplates.Json.Lexical

namespace WorkspaceTemplates.Json.Ignored

open Lexical

/-! ### Values without parts -/

/-- Pass over a string up to and including its closing quote. -/
def string? : List Char → Option (List Char)
  | [] => none
  | '"' :: rest => some rest
  | '\\' :: 'u' :: a :: b :: c :: d :: rest =>
    if [a, b, c, d].all fun x => (hexValue? x).isSome then string? rest else none
  | '\\' :: c :: rest => if (simpleEscape? c).isSome then string? rest else none
  | c :: rest => if c.toNat < 0x20 ∨ c = '\\' then none else string? rest

def unsigned? (s : List Char) : Option (List Char) :=
  let rest := s.dropWhile Char.isDigit
  match s.takeWhile Char.isDigit with
  | [] => none
  | '0' :: _ :: _ => none
  | _ =>
    match rest with
    | '.' :: more =>
      if (more.takeWhile Char.isDigit).isEmpty then none
      else (exponent? (more.dropWhile Char.isDigit)).map (·.2)
    | _ => (exponent? rest).map (·.2)

/-- Pass over a value without parts. -/
def atom? (s : List Char) : Option (List Char) :=
  match s with
  | 'n' :: 'u' :: 'l' :: 'l' :: rest => some rest
  | 't' :: 'r' :: 'u' :: 'e' :: rest => some rest
  | 'f' :: 'a' :: 'l' :: 's' :: 'e' :: rest => some rest
  | '"' :: rest => string? rest
  | '[' :: rest =>
    match skipSpace rest with
    | ']' :: rest => some rest
    | _ => none
  | '\x7b' :: rest =>
    match skipSpace rest with
    | '\x7d' :: rest => some rest
    | _ => none
  | '-' :: rest => unsigned? rest
  | _ => unsigned? s

/-! ### Collections -/

inductive Collection where
  | array
  | object
deriving DecidableEq, Repr

def Collection.closing : Collection → Char
  | array => ']'
  | object => '\x7d'

/-- Pass over the name of a member and its colon, if the innermost collection is an object. -/
def name? (outer : List Collection) (s : List Char) : Option (List Char) :=
  match outer with
  | .object :: _ =>
    match skipSpace s with
    | '"' :: rest =>
      (string? rest).bind fun rest =>
        match skipSpace rest with
        | ':' :: rest => some rest
        | _ => none
    | _ => none
  | _ => some s

/-- Pass over the ends of collections after a value, up to and including a comma; give the
    collections that are still open. -/
def ends? : List Collection → List Char → Option (List Collection × List Char)
  | [], s => some ([], s)
  | inner :: outer, s =>
    match skipSpace s with
    | ',' :: rest => some (inner :: outer, rest)
    | c :: rest => if c = inner.closing then ends? outer rest else none
    | [] => none

/-- Pass over a value and what is left of the collections around it.  `fuel` bounds the number of
    values. -/
def within? : Nat → List Collection → List Char → Option (List Char)
  | 0, _, _ => none
  | fuel + 1, outer, s =>
    (name? outer s).bind fun s =>
      let s := skipSpace s
      match atom? s with
      | some rest =>
        (ends? outer rest).bind fun (outer, rest) =>
          if outer.isEmpty then some rest else within? fuel outer rest
      | none =>
        match s with
        | '[' :: rest => within? fuel (.array :: outer) rest
        | '\x7b' :: rest => within? fuel (.object :: outer) rest
        | _ => none

def value? (s : List Char) : Option (List Char) := within? (s.length + 1) [] s

end WorkspaceTemplates.Json.Ignored

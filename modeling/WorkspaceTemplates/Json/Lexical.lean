/-
  WorkspaceTemplates/Json/Lexical.lean
  ====================================
  **The smallest parts of JSON texts.**

  White space, strings with their escapes, and exponents.  A reader takes a part
  from the front of a list of characters and gives what is left, or nothing when
  the part is malformed.
-/

namespace WorkspaceTemplates.Json.Lexical

def skipSpace (s : List Char) : List Char :=
  s.dropWhile fun c => c = ' ' || c = '\n' || c = '\t' || c = '\r'

def hexValue? (c : Char) : Option Nat :=
  if '0' ≤ c ∧ c ≤ '9' then some (c.toNat - '0'.toNat)
  else if 'a' ≤ c ∧ c ≤ 'f' then some (c.toNat - 'a'.toNat + 10)
  else if 'A' ≤ c ∧ c ≤ 'F' then some (c.toNat - 'A'.toNat + 10)
  else none

def hex4? : List Char → Option (Nat × List Char)
  | a :: b :: c :: d :: rest =>
    match hexValue? a, hexValue? b, hexValue? c, hexValue? d with
    | some a, some b, some c, some d => some (((a * 16 + b) * 16 + c) * 16 + d, rest)
    | _, _, _, _ => none
  | _ => none

/-- Read what follows `\u`: one code unit, or a pair of surrogates. -/
def unicodeEscape? (s : List Char) : Option (Char × List Char) :=
  match hex4? s with
  | none => none
  | some (n, rest) =>
    if 0xDC00 ≤ n ∧ n ≤ 0xDFFF then none
    else if 0xD800 ≤ n ∧ n ≤ 0xDBFF then
      match rest with
      | '\\' :: 'u' :: more =>
        match hex4? more with
        | some (m, rest) =>
          if 0xDC00 ≤ m ∧ m ≤ 0xDFFF then
            some (Char.ofNat (0x10000 + (n - 0xD800) * 0x400 + (m - 0xDC00)), rest)
          else none
        | none => none
      | _ => none
    else some (Char.ofNat n, rest)

def simpleEscape? : Char → Option Char
  | '"' => some '"'
  | '\\' => some '\\'
  | '/' => some '/'
  | 'b' => some '\x08'
  | 'f' => some '\x0c'
  | 'n' => some '\n'
  | 'r' => some '\r'
  | 't' => some '\t'
  | _ => none

/-- Read a string up to its closing quote.  The first argument bounds the number of characters
    read; `taken` holds those read so far, last one first. -/
def string? : Nat → List Char → List Char → Option (String × List Char)
  | 0, _, _ => none
  | fuel + 1, taken, s =>
    match s with
    | [] => none
    | '"' :: rest => some (String.ofList taken.reverse, rest)
    | '\\' :: 'u' :: rest =>
      match unicodeEscape? rest with
      | some (c, rest) => string? fuel (c :: taken) rest
      | none => none
    | '\\' :: c :: rest =>
      match simpleEscape? c with
      | some c => string? fuel (c :: taken) rest
      | none => none
    | c :: rest => if c.toNat < 0x20 ∨ c = '\\' then none else string? fuel (c :: taken) rest

/-- Read an exponent, if one stands here: its sign, whether it is negative, and its digits. -/
def exponent? (s : List Char) : Option (Option (Bool × List Char) × List Char) :=
  match s with
  | c :: rest =>
    if c = 'e' ∨ c = 'E' then
      let (down, rest) :=
        match rest with
        | '+' :: r => (false, r)
        | '-' :: r => (true, r)
        | r => (false, r)
      match rest.takeWhile Char.isDigit with
      | [] => none
      | ds => some (some (down, ds), rest.dropWhile Char.isDigit)
    else some (none, s)
  | [] => some (none, s)

end WorkspaceTemplates.Json.Lexical

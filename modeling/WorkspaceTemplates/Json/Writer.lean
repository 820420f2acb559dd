/-
  WorkspaceTemplates/Json/Writer.lean
  ===================================
  **Writing JSON.**

  `compact` writes a value without white space; `pretty` writes one member or item
  per line, indented by two spaces per level, and leaves empty arrays and objects
  on one line.  Strings escape the quote, the backslash and the control characters,
  and nothing else.
-/
import WorkspaceTemplates.Decimal.Shortest
import WorkspaceTemplates.Json.Basic

namespace WorkspaceTemplates.Json

def hexDigit (n : Nat) : Char :=
  if n < 10 then Char.ofNat (n + '0'.toNat) else Char.ofNat (n - 10 + 'a'.toNat)

def escapeChar (c : Char) : List Char :=
  match c with
  | '"' => ['\\', '"']
  | '\\' => ['\\', '\\']
  | '\n' => ['\\', 'n']
  | '\r' => ['\\', 'r']
  | '\t' => ['\\', 't']
  | '\x08' => ['\\', 'b']
  | '\x0c' => ['\\', 'f']
  | c =>
    if c.toNat < 0x20 then
      ['\\', 'u', '0', '0', hexDigit (c.toNat / 16), hexDigit (c.toNat % 16)]
    else [c]

def quoted (s : String) : String :=
  String.ofList ('"' :: s.toList.flatMap escapeChar ++ ['"'])

def numberText : Number → String
  | .natural n => n.repr
  | .negative n => "-" ++ n.repr
  | .real x => Decimal.text x

/-! ### Compact form -/

mutual

def compact : Json → String
  | .null => "null"
  | .bool true => "true"
  | .bool false => "false"
  | .number n => numberText n
  | .string s => quoted s
  | .array items => "[" ++ ",".intercalate (compactItems items) ++ "]"
  | .object members => "\x7b" ++ ",".intercalate (compactMembers members) ++ "\x7d"

def compactItems : List Json → List String
  | [] => []
  | j :: rest => compact j :: compactItems rest

def compactMembers : List (String × Json) → List String
  | [] => []
  | (k, j) :: rest => (quoted k ++ ":" ++ compact j) :: compactMembers rest

end

/-! ### Indented form -/

def newline (level : Nat) : String :=
  String.ofList ('\n' :: List.replicate (2 * level) ' ')

/-- Texts between brackets, one per line at a level. -/
def block (opening closing : String) (level : Nat) (lines : List String) : String :=
  if lines.isEmpty then opening ++ closing
  else
    opening ++ newline (level + 1) ++ ("," ++ newline (level + 1)).intercalate lines
      ++ newline level ++ closing

mutual

/-- A value indented from a level on. -/
def prettyAt (level : Nat) : Json → String
  | .null => "null"
  | .bool true => "true"
  | .bool false => "false"
  | .number n => numberText n
  | .string s => quoted s
  | .array items => block "[" "]" level (prettyItems level items)
  | .object members => block "\x7b" "\x7d" level (prettyMembers level members)

def prettyItems (level : Nat) : List Json → List String
  | [] => []
  | j :: rest => prettyAt (level + 1) j :: prettyItems level rest

def prettyMembers (level : Nat) : List (String × Json) → List String
  | [] => []
  | (k, j) :: rest => (quoted k ++ ": " ++ prettyAt (level + 1) j) :: prettyMembers level rest

end

def pretty (j : Json) : String := prettyAt 0 j

end WorkspaceTemplates.Json

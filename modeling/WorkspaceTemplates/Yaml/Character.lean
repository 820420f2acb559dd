/-
  WorkspaceTemplates/Yaml/Character.lean
  ======================================
  **The characters of YAML texts, and a reading position among them.**

  A position knows the text that is left, how many bytes were read, and its line
  and column; columns count characters.  A NUL character stands for the end of the
  text; no YAML text holds one.
-/

namespace WorkspaceTemplates.Yaml

/-! ### Character classes -/

/-- The characters that may stand in a YAML text. -/
def isAllowed (c : Char) : Bool :=
  let n := c.toNat
  n == 0x09 || n == 0x0A || n == 0x0D || (0x20 ≤ n && n ≤ 0x7E) || n == 0x85
    || (0xA0 ≤ n && n ≤ 0xD7FF) || (0xE000 ≤ n && n ≤ 0xFFFD) || 0x10000 ≤ n

/-- The characters that a YAML text is written with; others are escaped. -/
def isPrintable (c : Char) : Bool :=
  let n := c.toNat
  n == 0x0A || (0x20 ≤ n && n ≤ 0x7E)
    || (0xA0 ≤ n && n ≤ 0xFFFD && n != 0xFEFF) || 0x10000 ≤ n

def isBreak (c : Char) : Bool :=
  c == '\n' || c == '\r' || c.toNat == 0x85 || c.toNat == 0x2028 || c.toNat == 0x2029

def isEnd (c : Char) : Bool := c.toNat == 0

def isSpace (c : Char) : Bool := c == ' ' || c == '\t'

def isBreakOrEnd (c : Char) : Bool := isBreak c || isEnd c

def isSpaceOrEnd (c : Char) : Bool := isSpace c || isBreakOrEnd c

/-- The characters of anchors, tag handles and directive names. -/
def isWordChar (c : Char) : Bool := c.isAlphanum || c == '_' || c == '-'

def hexValue? (c : Char) : Option Nat :=
  if '0' ≤ c ∧ c ≤ '9' then some (c.toNat - '0'.toNat)
  else if 'a' ≤ c ∧ c ≤ 'f' then some (c.toNat - 'a'.toNat + 10)
  else if 'A' ≤ c ∧ c ≤ 'F' then some (c.toNat - 'A'.toNat + 10)
  else none

/-! ### Positions -/

structure Cursor where
  rest : List Char
  /-- The number of bytes before the position. -/
  index : Nat
  line : Nat
  column : Nat

namespace Cursor

def byteCount (text : List Char) : Nat := text.foldl (fun n ch => n + ch.utf8Size) 0

def start (text : List Char) : Cursor := ⟨text, 0, 0, 0⟩

/-- The character some places ahead, or NUL at the end. -/
def peek (c : Cursor) (ahead : Nat) : Char := c.rest.getD ahead '\x00'

/-- The next character, or NUL at the end. -/
def head (c : Cursor) : Char := c.rest.headD '\x00'

def skip (c : Cursor) : Cursor :=
  ⟨c.rest.tail, c.index + c.head.utf8Size, c.line, c.column + 1⟩

def skipMany (c : Cursor) : Nat → Cursor
  | 0 => c
  | n + 1 => c.skip.skipMany n

def skipLine (c : Cursor) : Cursor :=
  match c.rest with
  | '\r' :: '\n' :: rest => ⟨rest, c.index + 2, c.line + 1, 0⟩
  | b :: rest => if isBreak b then ⟨rest, c.index + b.utf8Size, c.line + 1, 0⟩ else c
  | [] => c

/-- What a line break counts as in a scalar: the two Unicode separators stand for themselves,
    every other break is a line feed. -/
def breakText (c : Cursor) : List Char :=
  match c.rest with
  | b :: _ =>
    if b.toNat == 0x2028 || b.toNat == 0x2029 then [b] else if isBreak b then ['\n'] else []
  | [] => []

def skipWhile (p : Char → Bool) (c : Cursor) : Cursor :=
  let taken := c.rest.takeWhile p
  ⟨c.rest.drop taken.length, c.index + byteCount taken, c.line, c.column + taken.length⟩

def takeWhile (p : Char → Bool) (c : Cursor) : List Char := c.rest.takeWhile p

/-- Whether three equal characters and white space stand at the start of a line. -/
def atMarker (c : Cursor) (m : Char) : Bool :=
  c.column == 0 && c.peek 0 == m && c.peek 1 == m && c.peek 2 == m && isSpaceOrEnd (c.peek 3)

end Cursor

end WorkspaceTemplates.Yaml

/-
  WorkspaceTemplates/Yaml/Writer.lean
  ===================================
  **Writing YAML.**

  Collections are written as blocks, two columns per level; a sequence under the
  key of a mapping stands at the indentation of the mapping.  Texts with line feeds
  are written literally, texts that would read as something else are quoted, and
  all others are plain where that is possible.  Where a style cannot hold a text,
  the next one that can is taken, double quotes in the end.
-/
import WorkspaceTemplates.Yaml.Meaning

namespace WorkspaceTemplates.Yaml

/-! ### Choosing a style -/

/-- Whether somewhere in a text one of two neighbours satisfies `p` and the next one `q`. -/
def hasNeighbours (p q : Char → Bool) : List Char → Bool
  | a :: b :: rest => (p a && q b) || hasNeighbours p q (b :: rest)
  | _ => false

/-- The characters that start something else than a plain scalar. -/
def opensOther (c : Char) : Bool :=
  ['#', ',', '[', ']', '\x7b', '\x7d', '&', '*', '!', '|', '>', '\'', '"', '%', '@',
    '\x60'].contains c

/-- Whether the first characters of a text would be taken for punctuation. -/
def startsMarked : List Char → Bool
  | '-' :: '-' :: '-' :: _ => true
  | '.' :: '.' :: '.' :: _ => true
  | c :: rest =>
    opensOther c || ((c == '-' || c == '?' || c == ':') && isSpaceOrEnd (rest.headD '\x00'))
  | [] => false

/-- Whether a text has a colon before white space or its end, or a number sign after white space. -/
def hasMark (s : List Char) : Bool :=
  hasNeighbours (· == ':') isSpaceOrEnd s || s.getLast? == some ':'
    || hasNeighbours isSpaceOrEnd (· == '#') s

/-- Whether a text has a character that only double quotes can hold, or a space before a break. -/
def needsEscapes (s : List Char) : Bool :=
  s.any (fun c => !isPrintable c) || hasNeighbours (· == ' ') isBreak s

def hasLooseEnds (s : List Char) : Bool :=
  let loose (c : Option Char) := c.any fun c => c == ' ' || isBreak c
  loose s.head? || loose s.getLast?

def allowsPlain (s : List Char) : Bool :=
  !(startsMarked s || hasMark s || needsEscapes s || hasLooseEnds s || s.any isBreak)

def allowsSingle (s : List Char) : Bool :=
  !(needsEscapes s || hasNeighbours isBreak (· == ' ') s)

def allowsLiteral (s : List Char) : Bool :=
  !s.isEmpty && !needsEscapes s && s.getLast? != some ' '

/-- Whether a text without quotes would read as something else than a text, or nearly so. -/
def readsAsOther (s : String) : Bool :=
  isZeroPadded s.toList ||
    match plainData s with
    | some (.text _) => false
    | _ => true

def styleOf (s : String) : ScalarStyle :=
  let cs := s.toList
  if cs.contains '\n' then (if allowsLiteral cs then .literal else .doubleQuoted)
  else if !readsAsOther s && allowsPlain cs then .plain
  else if allowsSingle cs then .singleQuoted
  else .doubleQuoted

/-! ### Writing scalars -/

def indentation (n : Nat) : List Char := List.replicate n ' '

def upperHexDigit (n : Nat) : Char :=
  if n < 10 then Char.ofNat (n + '0'.toNat) else Char.ofNat (n - 10 + 'A'.toNat)

def hexDigits : Nat → Nat → List Char
  | 0, _ => []
  | width + 1, n => hexDigits width (n / 16) ++ [upperHexDigit (n % 16)]

def escapeChar (c : Char) : List Char :=
  match c with
  | '"' => ['\\', '"']
  | '\\' => ['\\', '\\']
  | '\x00' => ['\\', '0']
  | '\x07' => ['\\', 'a']
  | '\x08' => ['\\', 'b']
  | '\x09' => ['\\', 't']
  | '\x0a' => ['\\', 'n']
  | '\x0b' => ['\\', 'v']
  | '\x0c' => ['\\', 'f']
  | '\x0d' => ['\\', 'r']
  | '\x1b' => ['\\', 'e']
  | c =>
    if c.toNat = 0x85 then ['\\', 'N']
    else if c.toNat = 0x2028 then ['\\', 'L']
    else if c.toNat = 0x2029 then ['\\', 'P']
    else if isPrintable c then [c]
    else if c.toNat ≤ 0xFF then '\\' :: 'x' :: hexDigits 2 c.toNat
    else if c.toNat ≤ 0xFFFF then '\\' :: 'u' :: hexDigits 4 c.toNat
    else '\\' :: 'U' :: hexDigits 8 c.toNat

/-- A text whose lines are indented, the first one only if `fresh`.  Characters other than line
    breaks are written by `write`. -/
def indentLines (indent : Nat) (write : Char → List Char) : Bool → List Char → List Char
  | _, [] => []
  | fresh, c :: rest =>
    if isBreak c then c :: indentLines indent write true rest
    else
      (if fresh then indentation indent else []) ++ write c
        ++ indentLines indent write false rest

def endsInBreak (s : List Char) : Bool := s.getLast?.any isBreak

def singleQuoted (indent : Nat) (s : List Char) : List Char :=
  '\'' :: indentLines indent (fun c => if c = '\'' then ['\'', '\''] else [c]) false s
    ++ (if endsInBreak s then indentation indent else []) ++ ['\'']

/-- The characters after the bar of a literal text: its indentation if the text starts with white
    space, and whether the breaks at its end are fewer or more than one. -/
def literalHints (s : List Char) : List Char :=
  let start := if s.head?.any fun c => c == ' ' || isBreak c then ['2'] else []
  let stop :=
    match s.reverse with
    | [] => ['-']
    | [a] => if isBreak a then ['+'] else ['-']
    | a :: b :: _ => if !isBreak a then ['-'] else if isBreak b then ['+'] else []
  start ++ stop

def scalarText (indent : Nat) (s : String) : String :=
  let cs := s.toList
  match styleOf s with
  | .singleQuoted => String.ofList (singleQuoted indent cs)
  | .doubleQuoted => String.ofList ('"' :: cs.flatMap escapeChar ++ ['"'])
  | .literal | .folded =>
    String.ofList ('|' :: literalHints cs ++ '\n' :: indentLines indent (fun c => [c]) true cs)
  | .plain => s

def endLine (s : String) : String :=
  if endsInBreak s.toList then s else s ++ "\n"

/-! ### Writing collections -/

/-- What is written: words such as numbers, texts, and collections with texts as keys. -/
inductive Tree where
  | word (s : String)
  | text (s : String)
  | sequence (items : List Tree)
  | mapping (entries : List (String × Tree))
deriving Repr

/-- Whether a text may stand before the colon of an entry without a question mark. -/
def isSimpleKey (key : String) : Bool :=
  !key.toList.any isBreak && key.utf8ByteSize ≤ 128

/-- Lines of texts, each but the first indented. -/
def stack (indent : Nat) (blocks : List String) : String :=
  (String.ofList (indentation indent)).intercalate blocks

def below (indent : Nat) (blocks : List String) : String :=
  "\n" ++ String.ofList (indentation indent) ++ stack indent blocks

mutual

/-- What follows the colon of a simple key in a mapping at an indentation. -/
def afterKey (indent : Nat) : Tree → String
  | .sequence (x :: xs) => below indent (itemBlocks indent (x :: xs))
  | .mapping (e :: es) => below (indent + 2) (entryBlocks (indent + 2) (e :: es))
  | t => afterMark indent t

/-- What follows a dash, or another mark at the start of a line, at an indentation. -/
def afterMark (indent : Nat) : Tree → String
  | .word s => " " ++ s ++ "\n"
  | .text s => " " ++ endLine (scalarText (indent + 2) s)
  | .sequence [] => " []\n"
  | .sequence (x :: xs) => " " ++ stack (indent + 2) (itemBlocks (indent + 2) (x :: xs))
  | .mapping [] => " \x7b\x7d\n"
  | .mapping (e :: es) => " " ++ stack (indent + 2) (entryBlocks (indent + 2) (e :: es))

def itemBlocks (indent : Nat) : List Tree → List String
  | [] => []
  | t :: rest => ("-" ++ afterMark indent t) :: itemBlocks indent rest

def entryBlocks (indent : Nat) : List (String × Tree) → List String
  | [] => []
  | (k, t) :: rest =>
    (if isSimpleKey k then scalarText (indent + 2) k ++ ":" ++ afterKey indent t
      else
        "? " ++ endLine (scalarText (indent + 2) k) ++ String.ofList (indentation indent) ++ ":"
          ++ afterMark indent t) :: entryBlocks indent rest

end

def documentText (entries : List (String × Tree)) : String :=
  if entries.isEmpty then "\x7b\x7d\n" else "".intercalate (entryBlocks 0 entries)

end WorkspaceTemplates.Yaml

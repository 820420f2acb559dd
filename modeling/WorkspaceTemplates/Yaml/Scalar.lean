/-
  WorkspaceTemplates/Yaml/Scalar.lean
  ===================================
  **Reading scalars.**

  Each of the five styles has its own rules for folding lines and dropping
  indentation.  A reader starts at the first character of the scalar and gives its
  text and the position after it, or nothing when the scalar is malformed.
-/
import WorkspaceTemplates.Yaml.Character
import WorkspaceTemplates.Yaml.Token

namespace WorkspaceTemplates.Yaml

/-! ### Folding -/

/-- White space between two parts of a flow scalar: blanks on one line, or a first line break
    and those after it. -/
structure Gap where
  blanks : List Char
  crossed : Bool
  firstBreak : List Char
  moreBreaks : List Char

namespace Gap

def none : Gap := ⟨[], false, [], []⟩

/-- The text of a gap: blanks stand for themselves, one line feed becomes a space, and of
    several the first is dropped. -/
def text (g : Gap) : List Char :=
  if g.crossed then
    if g.firstBreak == ['\n'] then (if g.moreBreaks.isEmpty then [' '] else g.moreBreaks)
    else g.firstBreak ++ g.moreBreaks
  else g.blanks

/-- Read white space; the check refuses a tab at some columns after a line break.  `fuel` bounds
    the number of characters. -/
def read? (refuseTab : Cursor → Bool) : Nat → Gap → Cursor → Option (Gap × Cursor)
  | 0, g, c => some (g, c)
  | fuel + 1, g, c =>
    if isSpace c.head then
      if g.crossed && refuseTab c then Option.none
      else if g.crossed then read? refuseTab fuel g c.skip
      else read? refuseTab fuel { g with blanks := g.blanks ++ [c.head] } c.skip
    else if isBreak c.head then
      if g.crossed then
        read? refuseTab fuel { g with moreBreaks := g.moreBreaks ++ c.breakText } c.skipLine
      else
        read? refuseTab fuel
          { g with blanks := [], crossed := true, firstBreak := c.breakText } c.skipLine
    else some (g, c)

end Gap

/-! ### Plain scalars -/

/-- Whether a plain scalar ends before the next character.  Inside flow collections the flow
    indicators end it. -/
def endsPlain (inFlow : Bool) (c : Cursor) : Bool :=
  (c.head == ':' && isSpaceOrEnd (c.peek 1))
    || (inFlow && (c.head == ',' || c.head == '[' || c.head == ']' || c.head == '\x7b'
      || c.head == '\x7d'))

/-- Whether a colon stands before a flow indicator, where it is refused. -/
def straysInFlow (inFlow : Bool) (c : Cursor) : Bool :=
  inFlow && c.head == ':' && [',', '?', '[', ']', '\x7b', '\x7d'].contains (c.peek 1)

def plainChunk? (inFlow : Bool) : Nat → List Char → Cursor → Option (List Char × Cursor)
  | 0, acc, c => some (acc.reverse, c)
  | fuel + 1, acc, c =>
    if isSpaceOrEnd c.head then some (acc.reverse, c)
    else if straysInFlow inFlow c then none
    else if endsPlain inFlow c then some (acc.reverse, c)
    else plainChunk? inFlow fuel (c.head :: acc) c.skip

/-- Read a plain scalar part by part.  Its lines are indented by more than the surrounding
    block.  The last component says whether it ended after a line break. -/
def plainParts? (inFlow : Bool) (indent : Int) :
    Nat → List Char → Gap → Cursor → Option (List Char × Cursor × Bool)
  | 0, acc, gap, c => some (acc, c, gap.crossed)
  | fuel + 1, acc, gap, c =>
    if c.atMarker '-' || c.atMarker '.' || c.head == '#' then some (acc, c, gap.crossed)
    else
      (plainChunk? inFlow (c.rest.length + 1) [] c).bind fun (chunk, c) =>
        let (acc, gap) := if chunk.isEmpty then (acc, gap) else (acc ++ gap.text ++ chunk, Gap.none)
        if !(isSpace c.head || isBreak c.head) then some (acc, c, gap.crossed)
        else
          (Gap.read? (fun c => c.head == '\t' && (c.column : Int) < indent) (c.rest.length + 1)
              gap c).bind fun (gap, c) =>
            if !inFlow && (c.column : Int) < indent then some (acc, c, gap.crossed)
            else plainParts? inFlow indent fuel acc gap c

def plain? (inFlow : Bool) (indent : Int) (c : Cursor) : Option (List Char × Cursor × Bool) :=
  plainParts? inFlow (indent + 1) (c.rest.length + 1) [] Gap.none c

/-! ### Quoted scalars -/

def hexNumber? : Nat → Nat → Cursor → Option (Nat × Cursor)
  | 0, n, c => some (n, c)
  | digits + 1, n, c => (hexValue? c.head).bind fun d => hexNumber? digits (n * 16 + d) c.skip

def simpleEscape? : Char → Option Char
  | '0' => some '\x00'
  | 'a' => some '\x07'
  | 'b' => some '\x08'
  | 't' => some '\t'
  | '\t' => some '\t'
  | 'n' => some '\n'
  | 'v' => some '\x0b'
  | 'f' => some '\x0c'
  | 'r' => some '\r'
  | 'e' => some '\x1b'
  | ' ' => some ' '
  | '"' => some '"'
  | '/' => some '/'
  | '\\' => some '\\'
  | 'N' => some (Char.ofNat 0x85)
  | '_' => some (Char.ofNat 0xA0)
  | 'L' => some (Char.ofNat 0x2028)
  | 'P' => some (Char.ofNat 0x2029)
  | _ => none

def escapeDigits? : Char → Option Nat
  | 'x' => some 2
  | 'u' => some 4
  | 'U' => some 8
  | _ => none

def escape? (c : Cursor) : Option (Char × Cursor) :=
  match simpleEscape? c.head with
  | some ch => some (ch, c.skip)
  | none =>
    (escapeDigits? c.head).bind fun digits =>
      (hexNumber? digits 0 c.skip).bind fun (n, c) =>
        if n.isValidChar then some (Char.ofNat n, c) else none

/-- Read the characters of a quoted scalar up to white space or its closing quote.  The last
    component says whether the part ended in an escaped line break. -/
def quotedChunk? (single : Bool) :
    Nat → List Char → Cursor → Option (List Char × Cursor × Bool)
  | 0, acc, c => some (acc.reverse, c, false)
  | fuel + 1, acc, c =>
    if isSpaceOrEnd c.head then some (acc.reverse, c, false)
    else if single && c.head == '\'' && c.peek 1 == '\'' then
      quotedChunk? single fuel ('\'' :: acc) c.skip.skip
    else if c.head == (if single then '\'' else '"') then some (acc.reverse, c, false)
    else if !single && c.head == '\\' then
      if isBreak (c.peek 1) then some (acc.reverse, c.skip.skipLine, true)
      else (escape? c.skip).bind fun (ch, c) => quotedChunk? single fuel (ch :: acc) c
    else quotedChunk? single fuel (c.head :: acc) c.skip

def quotedParts? (single : Bool) : Nat → List Char → Cursor → Option (List Char × Cursor)
  | 0, _, _ => none
  | fuel + 1, acc, c =>
    if c.atMarker '-' || c.atMarker '.' || isEnd c.head then none
    else
      (quotedChunk? single (c.rest.length + 1) [] c).bind fun (chunk, c, escaped) =>
        let acc := acc ++ chunk
        if c.head == (if single then '\'' else '"') then some (acc, c.skip)
        else
          (Gap.read? (fun _ => false) (c.rest.length + 1)
              { Gap.none with crossed := escaped } c).bind fun (gap, c) =>
            quotedParts? single fuel (acc ++ gap.text) c

def quoted? (single : Bool) (c : Cursor) : Option (List Char × Cursor) :=
  quotedParts? single (c.rest.length + 2) [] c.skip

/-! ### Block scalars -/

/-- What becomes of the line breaks at the end of a block scalar. -/
inductive Chomping where
  | strip
  | clip
  | keep
deriving DecidableEq, Repr

def chomping? (c : Cursor) : Option (Chomping × Cursor) :=
  if c.head == '+' then some (.keep, c.skip)
  else if c.head == '-' then some (.strip, c.skip)
  else none

/-- Read an indentation indicator, which may not be zero; no indicator counts as zero. -/
def increment? (c : Cursor) : Option (Nat × Cursor) :=
  if c.head == '0' then none
  else if c.head.isDigit then some (c.head.toNat - '0'.toNat, c.skip)
  else some (0, c)

/-- Read the two indicators of a block scalar in either order. -/
def blockIndicators? (c : Cursor) : Option (Chomping × Nat × Cursor) :=
  match chomping? c with
  | some (ch, c) => (increment? c).map fun (n, c) => (ch, n, c)
  | none =>
    (increment? c).map fun (n, c) =>
      if n = 0 then (.clip, 0, c)
      else
        match chomping? c with
        | some (ch, c) => (ch, n, c)
        | none => (.clip, n, c)

/-- Read the empty lines and the indentation before a line of a block scalar.  While the
    indentation is not known, `indent` is zero and `widest` is the widest one seen. -/
def blockBreaks? (indent : Nat) :
    Nat → Nat → List Char → Cursor → Option (Nat × List Char × Cursor)
  | 0, widest, acc, c => some (widest, acc, c)
  | fuel + 1, widest, acc, c =>
    let spaces := (c.takeWhile (· == ' ')).length
    let c := c.skipMany (if indent = 0 then spaces else min spaces (indent - c.column))
    let widest := max widest c.column
    if (indent = 0 || c.column < indent) && c.head == '\t' then none
    else if isBreak c.head then blockBreaks? indent fuel widest (acc ++ c.breakText) c.skipLine
    else some (widest, acc, c)

/-- Read the empty lines before a line, and settle the indentation if it is not yet known; it is
    more than that of the surrounding block and at least one. -/
def blockIndent? (surrounding : Int) (indent : Nat) (c : Cursor) :
    Option (Nat × List Char × Cursor) :=
  (blockBreaks? indent (c.rest.length + 1) 0 [] c).map fun (widest, breaks, c) =>
    let settled := if indent = 0 then max widest (max (surrounding + 1).toNat 1) else indent
    (settled, breaks, c)

/-- Read the lines of a block scalar.  `lastBreak` is the break after the text so far, `breaks`
    are those of empty lines after it, and `blankBefore` says whether the last line started
    with a blank; lines that start with a blank are not folded. -/
def blockLines? (literal : Bool) (indent : Nat) :
    Nat → List Char → List Char → List Char → Bool → Cursor →
      Option (List Char × List Char × List Char × Cursor)
  | 0, acc, lastBreak, breaks, _, c => some (acc, lastBreak, breaks, c)
  | fuel + 1, acc, lastBreak, breaks, blankBefore, c =>
    if c.column = indent && !isEnd c.head then
      let blank := isSpace c.head
      let joint :=
        -- a break between two lines of text is folded, into a space or into the empty lines there
        if !literal && lastBreak == ['\n'] && !blankBefore && !blank then
          (if breaks.isEmpty then [' '] else [])
        else lastBreak
      let line := c.takeWhile (fun ch => !isBreakOrEnd ch)
      let c := c.skipWhile (fun ch => !isBreakOrEnd ch)
      let acc := acc ++ joint ++ breaks ++ line
      let lastBreak := c.breakText
      (blockBreaks? indent (c.rest.length + 1) 0 [] c.skipLine).bind fun (_, breaks, c) =>
        blockLines? literal indent fuel acc lastBreak breaks blank c
    else some (acc, lastBreak, breaks, c)

def block? (literal : Bool) (surrounding : Int) (c : Cursor) : Option (List Char × Cursor) :=
  (blockIndicators? c.skip).bind fun (chomping, increment, c) =>
    let c := c.skipWhile isSpace
    let c := if c.head == '#' then c.skipWhile (fun ch => !isBreakOrEnd ch) else c
    if !isBreakOrEnd c.head then none
    else
      let indent :=
        if increment = 0 then 0
        else if 0 ≤ surrounding then (surrounding + increment).toNat else increment
      (blockIndent? surrounding indent c.skipLine).bind fun (indent, breaks, c) =>
        (blockLines? literal indent (c.rest.length + 1) [] [] breaks false c).map
          fun (acc, lastBreak, breaks, c) =>
            let acc := if chomping = .strip then acc else acc ++ lastBreak
            (if chomping = .keep then acc ++ breaks else acc, c)

end WorkspaceTemplates.Yaml

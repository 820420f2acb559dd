/-
  WorkspaceTemplates/Yaml/Lexer.lean
  ==================================
  **From a YAML text to its tokens.**

  The lexer keeps the columns of the open block collections and, for every level
  of flow collections, the place where a key without a `?` may have started.  When
  a colon follows, a key token is put in at that place; a candidate expires at the
  end of its line and after 1024 bytes, and one that stands where only a key may
  stand makes the text malformed when it expires.
-/
import WorkspaceTemplates.Yaml.Scalar

namespace WorkspaceTemplates.Yaml

/-- A place where a key may have started: the number of its first token, and its position. -/
structure KeyCandidate where
  required : Bool
  token : Nat
  index : Nat
  line : Nat
  column : Nat

structure Lexer where
  cursor : Cursor
  tokens : Array Token
  /-- The column of the innermost open block collection, or `-1`. -/
  indent : Int
  /-- The columns of the collections around it. -/
  outer : List Int
  /-- Whether a key may start here. -/
  keyAllowed : Bool
  /-- One candidate for the block level and one for every open flow collection, innermost first. -/
  candidates : List (Option KeyCandidate)

namespace Lexer

def start (text : List Char) : Lexer := ⟨Cursor.start text, #[], -1, [], true, [none]⟩

def inFlow (l : Lexer) : Bool := 1 < l.candidates.length

def push (l : Lexer) (t : Token) : Lexer := { l with tokens := l.tokens.push t }

def moveTo (l : Lexer) (c : Cursor) : Lexer := { l with cursor := c }

/-! ### Candidates for keys -/

/-- Give up the innermost candidate, which may not be required. -/
def dropCandidate? (l : Lexer) : Option Lexer :=
  match l.candidates with
  | some k :: rest => if k.required then none else some { l with candidates := none :: rest }
  | _ => some l

/-- Take the present position as a candidate, if a key may start here. -/
def saveCandidate? (l : Lexer) : Option Lexer :=
  if l.keyAllowed then
    let c := l.cursor
    let candidate : KeyCandidate :=
      -- what stands at the column of the block collection around it has to be a key
      { required := !l.inFlow && l.indent == (c.column : Int)
        token := l.tokens.size, index := c.index, line := c.line, column := c.column }
    l.dropCandidate?.map fun l => { l with candidates := some candidate :: l.candidates.tail }
  else some l

/-- Whether a candidate has expired at a position. -/
def KeyCandidate.isStale (k : KeyCandidate) (c : Cursor) : Bool :=
  k.line < c.line || k.index + 1024 < c.index

/-- Give up the candidates that have expired, none of which may be required. -/
def dropStale? (l : Lexer) : Option Lexer :=
  let stale := fun (k : Option KeyCandidate) => k.any fun k => KeyCandidate.isStale k l.cursor
  if l.candidates.any fun k => stale k && k.any (·.required) then none
  else
    some { l with candidates := l.candidates.map fun k => if stale k then none else k }

/-! ### Block collections -/

/-- Open a block collection at a column unless one is open there; its token is put at a place,
    or at the end. -/
def openBlock (l : Lexer) (column : Nat) (place : Option Nat) (t : Token) : Lexer :=
  if !l.inFlow && l.indent < (column : Int) then
    let tokens :=
      match place with
      | some i => l.tokens.insertIdxIfInBounds i t
      | none => l.tokens.push t
    { l with tokens, outer := l.indent :: l.outer, indent := column }
  else l

def closeBlocksTo (column : Int) :
    List Int → Int → Array Token → List Int × Int × Array Token
  | [], indent, tokens =>
    if column < indent then ([], -1, tokens.push .blockEnd) else ([], indent, tokens)
  | i :: outer, indent, tokens =>
    if column < indent then closeBlocksTo column outer i (tokens.push .blockEnd)
    else (i :: outer, indent, tokens)

/-- Close the block collections to the right of a column, unless a flow collection is open. -/
def closeBlocks (l : Lexer) (column : Int) : Lexer :=
  if l.inFlow then l
  else
    let (outer, indent, tokens) := closeBlocksTo column l.outer l.indent l.tokens
    { l with outer, indent, tokens }

/-! ### White space and comments -/

/-- Step over white space and comments.  A tab counts as white space where no key may start.  A
    byte order mark at the start of a line is stepped over too; it takes a column. -/
def skipToToken : Nat → Lexer → Lexer
  | 0, l => l
  | fuel + 1, l =>
    let c := l.cursor
    let c := if c.column == 0 && c.head == '\uFEFF' then c.skip else c
    let c := c.skipWhile fun ch => ch == ' ' || ((l.inFlow || !l.keyAllowed) && ch == '\t')
    let c := if c.head == '#' then c.skipWhile (fun ch => !isBreakOrEnd ch) else c
    if isBreak c.head then
      skipToToken fuel { l with cursor := c.skipLine, keyAllowed := l.keyAllowed || !l.inFlow }
    else l.moveTo c

/-! ### Directives, anchors and tags -/

/-- The characters of tags, flow indicators aside. -/
def isUriChar (c : Char) : Bool :=
  isWordChar c || [';', '/', '?', ':', '@', '&', '=', '+', '$', '.', '!', '~', '*', '\'', '(',
    ')', '%'].contains c

def escapedWidth? (b : UInt8) : Option Nat :=
  if b < 0x80 then some 1
  else if 0xC0 ≤ b && b < 0xE0 then some 2
  else if 0xE0 ≤ b && b < 0xF0 then some 3
  else if 0xF0 ≤ b && b < 0xF8 then some 4
  else none

/-- Read an escaped byte, `%` and two hexadecimal digits. -/
def escapedByte? (c : Cursor) : Option (UInt8 × Cursor) :=
  if c.head == '%' then (hexNumber? 2 0 c.skip).map fun (n, c) => (UInt8.ofNat n, c) else none

def escapedRest? : Nat → Cursor → Option (List UInt8 × Cursor)
  | 0, c => some ([], c)
  | more + 1, c =>
    (escapedByte? c).bind fun (b, c) =>
      if 0x80 ≤ b && b < 0xC0 then (escapedRest? more c).map fun (bs, c) => (b :: bs, c) else none

/-- Read an escaped character: as many bytes as the first one says, whatever they spell. -/
def escaped? (c : Cursor) : Option (List UInt8 × Cursor) :=
  (escapedByte? c).bind fun (b, c) =>
    (escapedWidth? b).bind fun width =>
      (escapedRest? (width - 1) c).map fun (bs, c) => (b :: bs, c)

/-- Read the bytes of a tag; `taken` are those read so far, the last one first. -/
def uri? (flowIndicators : Bool) : Nat → List UInt8 → Cursor → Option (List UInt8 × Cursor)
  | 0, taken, c => some (taken.reverse, c)
  | fuel + 1, taken, c =>
    if c.head == '%' then
      (escaped? c).bind fun (bs, c) => uri? flowIndicators fuel (bs.reverse ++ taken) c
    else if isUriChar c.head || (flowIndicators && [',', '[', ']'].contains c.head) then
      uri? flowIndicators fuel (c.head.toUInt8 :: taken) c.skip
    else some (taken.reverse, c)

/-- Read a tag handle: `!`, `!!` or `!name!`, or the start of a tag without a handle. -/
def tagHandle? (c : Cursor) : Option (List Char × Cursor) :=
  if c.head == '!' then
    let name := c.skip.takeWhile isWordChar
    let c := c.skip.skipWhile isWordChar
    if c.head == '!' then some ('!' :: name ++ ['!'], c.skip) else some ('!' :: name, c)
  else none

/-- Whether a handle is `!!` or `!name!`. -/
def isNamedHandle (handle : List Char) : Bool :=
  1 < handle.length && handle.getLast? == some '!'

/-- Read a tag; give handle and suffix.  An exclamation mark alone is a suffix without a handle. -/
def tag? (inFlow : Bool) (c : Cursor) : Option (Token × Cursor) :=
  let body : Option (List Char × Tag × Cursor) :=
    if c.peek 1 == '<' then
      (uri? true (c.rest.length + 1) [] c.skip.skip).bind fun (suffix, c) =>
        if suffix.isEmpty || c.head != '>' then none
        else some ([], Tag.untilNul suffix, c.skip)
    else
      (tagHandle? c).bind fun (handle, c) =>
        if isNamedHandle handle then
          (uri? false (c.rest.length + 1) [] c).bind fun (suffix, c) =>
            if suffix.isEmpty then none else some (handle, Tag.untilNul suffix, c)
        else
          (uri? false (c.rest.length + 1) [] c).map fun (more, c) =>
            match Tag.untilNul (handle.tail.map Char.toUInt8 ++ more) with
            | [] => ([], Tag.mark, c)
            | suffix => (['!'], suffix, c)
  body.bind fun (handle, suffix, c) =>
    if isSpaceOrEnd c.head || (inFlow && c.head == ',') then
      some (.tag (String.ofList handle) suffix, c)
    else none

def anchorName? (c : Cursor) : Option (String × Cursor) :=
  let name := c.skip.takeWhile isWordChar
  let c := c.skip.skipWhile isWordChar
  if name.isEmpty then none
  else if isSpaceOrEnd c.head || ['?', ':', ',', ']', '\x7d', '%', '@', '\x60'].contains c.head then
    some (String.ofList name, c)
  else none

/-- Read a number of one to nine digits. -/
def versionNumber? (c : Cursor) : Option (Nat × Cursor) :=
  let ds := c.takeWhile Char.isDigit
  if ds.isEmpty || 9 < ds.length then none
  else some (ds.foldl (fun n d => n * 10 + (d.toNat - '0'.toNat)) 0, c.skipWhile Char.isDigit)

def versionValue? (c : Cursor) : Option (Token × Cursor) :=
  (versionNumber? (c.skipWhile isSpace)).bind fun (major, c) =>
    if c.head != '.' then none
    else (versionNumber? c.skip).map fun (minor, c) => (.versionDirective major minor, c)

def tagValue? (c : Cursor) : Option (Token × Cursor) :=
  (tagHandle? (c.skipWhile isSpace)).bind fun (handle, c) =>
    if handle != ['!'] && !isNamedHandle handle then none
    else if !isSpace c.head then none
    else
      (uri? true (c.rest.length + 1) [] (c.skipWhile isSpace)).bind fun (replacement, c) =>
        if replacement.isEmpty || !isSpaceOrEnd c.head then none
        else some (.tagDirective (String.ofList handle) (Tag.untilNul replacement), c)

def directive? (c : Cursor) : Option (Token × Cursor) :=
  let name := c.skip.takeWhile isWordChar
  let after := c.skip.skipWhile isWordChar
  if !isSpaceOrEnd after.head then none
  else
    let body :=
      if name == "YAML".toList then versionValue? after
      else if name == "TAG".toList then tagValue? after
      else none
    body.bind fun (t, c) =>
      let c := c.skipWhile isSpace
      let c := if c.head == '#' then c.skipWhile (fun ch => !isBreakOrEnd ch) else c
      if isBreakOrEnd c.head then some (t, c.skipLine) else none

/-! ### One token -/

/-- Add a token that has no key before it and ends all blocks. -/
def atMargin? (l : Lexer) (read : Cursor → Option (Token × Cursor)) : Option Lexer :=
  ((l.closeBlocks (-1)).dropCandidate?).bind fun l =>
    (read l.cursor).map fun (t, c) => ({ l with keyAllowed := false }.push t).moveTo c

def openFlow? (l : Lexer) (t : Token) : Option Lexer :=
  l.saveCandidate?.map fun l =>
    ({ l with candidates := none :: l.candidates, keyAllowed := true }.push t).moveTo l.cursor.skip

def closeFlow? (l : Lexer) (t : Token) : Option Lexer :=
  l.dropCandidate?.map fun l =>
    -- a bracket that closes nothing is left to the reader of nodes
    let candidates := if l.inFlow then l.candidates.tail else l.candidates
    ({ l with candidates, keyAllowed := false }.push t).moveTo l.cursor.skip

def flowEntry? (l : Lexer) : Option Lexer :=
  l.dropCandidate?.map fun l =>
    ({ l with keyAllowed := true }.push .flowEntry).moveTo l.cursor.skip

def blockEntry? (l : Lexer) : Option Lexer :=
  if !l.inFlow && !l.keyAllowed then none
  else
    (l.openBlock l.cursor.column none .blockSequenceStart).dropCandidate?.map fun l =>
      ({ l with keyAllowed := true }.push .blockEntry).moveTo l.cursor.skip

def key? (l : Lexer) : Option Lexer :=
  if !l.inFlow && !l.keyAllowed then none
  else
    (l.openBlock l.cursor.column none .blockMappingStart).dropCandidate?.map fun l =>
      ({ l with keyAllowed := !l.inFlow }.push .key).moveTo l.cursor.skip

/-- Add the indicator of a value, and that of its key if a candidate stands before it. -/
def value? (l : Lexer) : Option Lexer :=
  match l.candidates with
  | some k :: rest =>
    -- the key was read before it was known to be one
    let l := { l with tokens := l.tokens.insertIdxIfInBounds k.token .key }
    let l := l.openBlock k.column (some k.token) .blockMappingStart
    some (({ l with candidates := none :: rest, keyAllowed := false }.push .value).moveTo
      l.cursor.skip)
  | _ =>
    if !l.inFlow && !l.keyAllowed then none
    else
      let l := l.openBlock l.cursor.column none .blockMappingStart
      some (({ l with keyAllowed := !l.inFlow }.push .value).moveTo l.cursor.skip)

/-- Add a token that may start a key. -/
def maybeKey? (l : Lexer) (read : Cursor → Option (Token × Cursor)) : Option Lexer :=
  l.saveCandidate?.bind fun l =>
    (read l.cursor).map fun (t, c) => ({ l with keyAllowed := false }.push t).moveTo c

/-- Add a plain scalar; after a line break a key may follow it. -/
def plainScalar? (l : Lexer) : Option Lexer :=
  l.saveCandidate?.bind fun l =>
    (plain? l.inFlow l.indent l.cursor).map fun (text, c, crossed) =>
      ({ l with keyAllowed := crossed }.push (.scalar .plain (String.ofList text))).moveTo c

def blockScalar? (l : Lexer) (isLiteral : Bool) : Option Lexer :=
  l.dropCandidate?.bind fun l =>
    (block? isLiteral l.indent l.cursor).map fun (text, c) =>
      ({ l with keyAllowed := true }.push
        (.scalar (if isLiteral then .literal else .folded) (String.ofList text))).moveTo c

def quotedToken? (single : Bool) (c : Cursor) : Option (Token × Cursor) :=
  (quoted? single c).map fun (text, c) =>
    (.scalar (if single then .singleQuoted else .doubleQuoted) (String.ofList text), c)

def startsPlain (l : Lexer) : Bool :=
  let c := l.cursor
  let isIndicator := ['-', '?', ':', ',', '[', ']', '\x7b', '\x7d', '#', '&', '*', '!', '|', '>',
    '\'', '"', '%', '@', '\x60'].contains c.head
  !(isSpaceOrEnd c.head || isIndicator)
    || (c.head == '-' && !isSpace (c.peek 1))
    || (!l.inFlow && (c.head == '?' || c.head == ':') && !isSpaceOrEnd (c.peek 1))

def token? (l : Lexer) : Option Lexer :=
  let c := l.cursor
  let ch := c.head
  let indicates := l.inFlow || isSpaceOrEnd (c.peek 1)
  if c.column == 0 && ch == '%' then l.atMargin? directive?
  else if c.atMarker '-' then l.atMargin? fun c => some (.documentStart, c.skipMany 3)
  else if c.atMarker '.' then l.atMargin? fun c => some (.documentEnd, c.skipMany 3)
  else if ch == '[' then l.openFlow? .flowSequenceStart
  else if ch == '\x7b' then l.openFlow? .flowMappingStart
  else if ch == ']' then l.closeFlow? .flowSequenceEnd
  else if ch == '\x7d' then l.closeFlow? .flowMappingEnd
  else if ch == ',' then l.flowEntry?
  else if ch == '-' && isSpaceOrEnd (c.peek 1) then l.blockEntry?
  else if ch == '?' && indicates then l.key?
  else if ch == ':' && indicates then l.value?
  else if ch == '*' then l.maybeKey? fun c => (anchorName? c).map fun (n, c) => (.alias n, c)
  else if ch == '&' then l.maybeKey? fun c => (anchorName? c).map fun (n, c) => (.anchor n, c)
  else if ch == '!' then l.maybeKey? (tag? l.inFlow)
  else if ch == '|' && !l.inFlow then l.blockScalar? true
  else if ch == '>' && !l.inFlow then l.blockScalar? false
  else if ch == '\'' then l.maybeKey? (quotedToken? true)
  else if ch == '"' then l.maybeKey? (quotedToken? false)
  else if l.startsPlain then l.plainScalar?
  else none

/-! ### All tokens -/

def finish? (l : Lexer) : Option (Array Token) :=
  (l.closeBlocks (-1)).dropCandidate?.map fun l => l.tokens.push .streamEnd

def run? : Nat → Lexer → Option (Array Token)
  | 0, _ => none
  | fuel + 1, l =>
    (skipToToken (l.cursor.rest.length + 1) l).dropStale?.bind fun l =>
      let l := l.closeBlocks l.cursor.column
      if isEnd l.cursor.head then l.finish?
      else l.token?.bind (run? fuel)

end Lexer

/-- The tokens of a text.  Characters outside the character set of YAML are refused. -/
def tokens? (text : List Char) : Option (Array Token) :=
  if text.all isAllowed then Lexer.run? (text.length + 2) (Lexer.start text) else none

end WorkspaceTemplates.Yaml

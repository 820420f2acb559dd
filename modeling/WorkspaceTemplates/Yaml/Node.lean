/-
  WorkspaceTemplates/Yaml/Node.lean
  =================================
  **From tokens to the nodes of a document.**

  A recursive reading of the token list.  Anchors are numbered by the count of
  different anchor names before them, so the numbers of two anchors can agree when
  a name is used again; an alias stands for the last node that bears its number.
  A text holds at most one document.
-/
import WorkspaceTemplates.Yaml.Lexer

namespace WorkspaceTemplates.Yaml

/-- A node of a document.  Anchors and aliases are numbers. -/
inductive Node where
  | scalar (anchor : Option Nat) (tag : Option Tag) (style : ScalarStyle) (text : String)
  | sequence (anchor : Option Nat) (tag : Option Tag) (items : List Node)
  | mapping (anchor : Option Nat) (tag : Option Tag) (entries : List (Node × Node))
  | alias (anchor : Nat)
deriving Inhabited

namespace Node

/-- An empty plain scalar, which stands where a node is left out. -/
def absent : Node := .scalar none none .plain ""

mutual

/-- The number of events that a node consists of: one for a scalar or alias, and two more than
    the parts for a collection. -/
def events : Node → Nat
  | .scalar .. => 1
  | .alias _ => 1
  | .sequence _ _ items => 2 + itemEvents items
  | .mapping _ _ entries => 2 + entryEvents entries

def itemEvents : List Node → Nat
  | [] => 0
  | n :: rest => events n + itemEvents rest

def entryEvents : List (Node × Node) → Nat
  | [] => 0
  | (k, v) :: rest => events k + events v + entryEvents rest

end

mutual

/-- The anchored nodes inside a node, in the order in which they start. -/
def anchored (n : Node) : List (Nat × Node) :=
  match n with
  | .alias _ => []
  | .scalar a _ _ _ => a.toList.map (·, n)
  | .sequence a _ items => a.toList.map (·, n) ++ anchoredItems items
  | .mapping a _ entries => a.toList.map (·, n) ++ anchoredEntries entries

def anchoredItems : List Node → List (Nat × Node)
  | [] => []
  | n :: rest => anchored n ++ anchoredItems rest

def anchoredEntries : List (Node × Node) → List (Nat × Node)
  | [] => []
  | (k, v) :: rest => anchored k ++ anchored v ++ anchoredEntries rest

end

end Node

/-! ### Reading nodes -/

/-- What is left to read: the tokens, the anchors seen so far, and the tag handles. -/
structure Remainder where
  tokens : List Token
  anchors : List (String × Nat)
  handles : List (String × Tag)

namespace Remainder

def peek (s : Remainder) : Token := s.tokens.headD .streamEnd

def skip (s : Remainder) : Remainder := { s with tokens := s.tokens.tail }

def standardHandles : List (String × Tag) :=
  [("!", Tag.mark), ("!!", Tag.ofText "tag:yaml.org,2002:")]

def bindAnchor (s : Remainder) (name : Option String) : Option Nat × Remainder :=
  match name with
  | none => (none, s)
  | some name =>
    let n := s.anchors.length
    (some n, { s with anchors := (name, n) :: s.anchors.filter (·.1 != name) })

/-- Read an anchor and a tag in either order. -/
def properties (s : Remainder) : Option String × Option (String × Tag) × Remainder :=
  match s.peek with
  | .anchor a =>
    match s.skip.peek with
    | .tag h t => (some a, some (h, t), s.skip.skip)
    | _ => (some a, none, s.skip)
  | .tag h t =>
    match s.skip.peek with
    | .anchor a => (some a, some (h, t), s.skip.skip)
    | _ => (none, some (h, t), s.skip)
  | _ => (none, none, s)

/-- Write a tag out by its handle, which must be known. -/
def tag? (s : Remainder) (tag : Option (String × Tag)) : Option (Option Tag) :=
  match tag with
  | none => some none
  | some (handle, suffix) =>
    if handle.isEmpty then some (some suffix)
    else (s.handles.lookup handle).map fun pre => some (pre ++ suffix)

mutual

/-- Read a node.  Where `inBlock` is false, block collections are refused; where `indentless` is
    true, a block sequence may start at the indentation of the mapping around it. -/
def node? (fuel : Nat) (inBlock indentless : Bool) (s : Remainder) : Option (Node × Remainder) :=
  match fuel with
  | 0 => none
  | fuel + 1 =>
    match s.peek with
    | .alias name => (s.anchors.lookup name).map fun n => (.alias n, s.skip)
    | _ =>
      let (anchor, tag, s) := s.properties
      (s.tag? tag).bind fun tag =>
        let (id, s) := s.bindAnchor anchor
        match s.peek with
        | .scalar style text => some (.scalar id tag style text, s.skip)
        | .flowSequenceStart =>
          (flowItems? fuel true s.skip).map fun (ns, s) => (.sequence id tag ns, s)
        | .flowMappingStart =>
          (flowEntries? fuel true s.skip).map fun (es, s) => (.mapping id tag es, s)
        | t =>
          if indentless && t == .blockEntry then
            (indentlessItems? fuel s).map fun (ns, s) => (.sequence id tag ns, s)
          else if inBlock && t == .blockSequenceStart then
            (blockItems? fuel s.skip).map fun (ns, s) => (.sequence id tag ns, s)
          else if inBlock && t == .blockMappingStart then
            (blockEntries? fuel s.skip).map fun (es, s) => (.mapping id tag es, s)
          -- an anchor or a tag alone stands for an empty scalar
          else if id.isSome || tag.isSome then some (.scalar id tag .plain "", s)
          else none

/-- Read a node unless one of some tokens stands here, which leaves it out. -/
def nodeUnless? (fuel : Nat) (stops : List Token) (inBlock indentless : Bool) (s : Remainder) :
    Option (Node × Remainder) :=
  match fuel with
  | 0 => none
  | fuel + 1 =>
    if stops.contains s.peek then some (.absent, s) else node? fuel inBlock indentless s

def blockItems? (fuel : Nat) (s : Remainder) : Option (List Node × Remainder) :=
  match fuel with
  | 0 => none
  | fuel + 1 =>
    match s.peek with
    | .blockEntry =>
      (nodeUnless? fuel [.blockEntry, .blockEnd] true false s.skip).bind fun (n, s) =>
        (blockItems? fuel s).map fun (ns, s) => (n :: ns, s)
    | .blockEnd => some ([], s.skip)
    | _ => none

/-- Read the items of a block sequence that stands at the indentation of its mapping. -/
def indentlessItems? (fuel : Nat) (s : Remainder) : Option (List Node × Remainder) :=
  match fuel with
  | 0 => none
  | fuel + 1 =>
    match s.peek with
    | .blockEntry =>
      (nodeUnless? fuel [.blockEntry, .key, .value, .blockEnd] true false s.skip).bind
        fun (n, s) => (indentlessItems? fuel s).map fun (ns, s) => (n :: ns, s)
    | _ => some ([], s)

def blockEntries? (fuel : Nat) (s : Remainder) : Option (List (Node × Node) × Remainder) :=
  match fuel with
  | 0 => none
  | fuel + 1 =>
    match s.peek with
    | .key =>
      (nodeUnless? fuel [.key, .value, .blockEnd] true true s.skip).bind fun (k, s) =>
        let value :=
          if s.peek == .value then nodeUnless? fuel [.key, .value, .blockEnd] true true s.skip
          else some (.absent, s)
        value.bind fun (v, s) => (blockEntries? fuel s).map fun (es, s) => ((k, v) :: es, s)
    | .blockEnd => some ([], s.skip)
    | _ => none

def flowItems? (fuel : Nat) (first : Bool) (s : Remainder) : Option (List Node × Remainder) :=
  match fuel with
  | 0 => none
  | fuel + 1 =>
    if s.peek == .flowSequenceEnd then some ([], s.skip)
    else if !first && s.peek != .flowEntry then none
    else
      let s := if first then s else s.skip
      match s.peek with
      | .flowSequenceEnd => some ([], s.skip)
      | .key =>
        (flowPair? fuel s.skip).bind fun (n, s) =>
          (flowItems? fuel false s).map fun (ns, s) => (n :: ns, s)
      | _ =>
        (node? fuel false false s).bind fun (n, s) =>
          (flowItems? fuel false s).map fun (ns, s) => (n :: ns, s)

/-- Read a single pair that stands as an item of a flow sequence, after the indicator of its key.
    A key that is left out takes the next token with it. -/
def flowPair? (fuel : Nat) (s : Remainder) : Option (Node × Remainder) :=
  match fuel with
  | 0 => none
  | fuel + 1 =>
    let key :=
      if [Token.value, .flowEntry, .flowSequenceEnd].contains s.peek then some (.absent, s.skip)
      else node? fuel false false s
    key.bind fun (k, s) =>
      let value :=
        if s.peek == .value then
          nodeUnless? fuel [.flowEntry, .flowSequenceEnd] false false s.skip
        else some (.absent, s)
      value.map fun (v, s) => (.mapping none none [(k, v)], s)

def flowEntries? (fuel : Nat) (first : Bool) (s : Remainder) :
    Option (List (Node × Node) × Remainder) :=
  match fuel with
  | 0 => none
  | fuel + 1 =>
    if s.peek == .flowMappingEnd then some ([], s.skip)
    else if !first && s.peek != .flowEntry then none
    else
      let s := if first then s else s.skip
      match s.peek with
      | .flowMappingEnd => some ([], s.skip)
      | .key =>
        (nodeUnless? fuel [.value, .flowEntry, .flowMappingEnd] false false s.skip).bind
          fun (k, s) =>
            let value :=
              if s.peek == .value then
                nodeUnless? fuel [.flowEntry, .flowMappingEnd] false false s.skip
              else some (.absent, s)
            value.bind fun (v, s) =>
              (flowEntries? fuel false s).map fun (es, s) => ((k, v) :: es, s)
      | _ =>
        (node? fuel false false s).bind fun (k, s) =>
          (flowEntries? fuel false s).map fun (es, s) => ((k, .absent) :: es, s)

end

/-! ### Reading documents -/

/-- Read the directives before a document: at most one version, `1.1` or `1.2`, and handles that
    differ from each other. -/
def directives? : Nat → Bool → List (String × Tag) → Remainder → Option Remainder
  | 0, _, _, _ => none
  | fuel + 1, versioned, handles, s =>
    match s.peek with
    | .versionDirective major minor =>
      if versioned || major != 1 || !(minor == 1 || minor == 2) then none
      else directives? fuel true handles s.skip
    | .tagDirective handle replacement =>
      if (handles.lookup handle).isSome then none
      else directives? fuel versioned ((handle, replacement) :: handles) s.skip
    | _ => some { s with handles := handles ++ standardHandles }

def endsContent : Token → Bool
  | .versionDirective .. | .tagDirective .. | .documentStart | .documentEnd | .streamEnd => true
  | _ => false

def announces : Token → Bool
  | .versionDirective .. | .tagDirective .. | .documentStart => true
  | _ => false

def isDone : List Token → Bool
  | .documentEnd :: rest => isDone rest
  | [.streamEnd] => true
  | _ => false

def document? (s : Remainder) : Option (Option Node) :=
  let fuel := 3 * s.tokens.length + 3
  if s.peek == .streamEnd then some none
  else
    let content :=
      if announces s.peek then
        (directives? fuel false [] s).bind fun s =>
          if s.peek != .documentStart then none
          else if endsContent s.skip.peek then some (.absent, s.skip)
          else node? fuel true false s.skip
      else node? fuel true false { s with handles := standardHandles }
    content.bind fun (n, s) => if isDone s.tokens then some (some n) else none

end Remainder

/-- A document: its root, the nodes that aliases stand for, and the number of its events. -/
structure Document where
  /-- The root, unless the text holds no document. -/
  root : Option Node
  anchored : List (Nat × Node)
  events : Nat

namespace Document

def parse? (text : String) : Option Document :=
  (tokens? text.toList).bind fun tokens =>
    (Remainder.document? ⟨tokens.toList, [], []⟩).map fun root =>
      match root with
      | none => ⟨none, [], 1⟩
      | some n => ⟨some n, n.anchored, n.events⟩

/-- The node of a number: the last one that bears it. -/
def target? (d : Document) (anchor : Nat) : Option Node :=
  d.anchored.reverse.lookup anchor

end Document

end WorkspaceTemplates.Yaml

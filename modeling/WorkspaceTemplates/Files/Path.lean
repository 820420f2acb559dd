/-
  WorkspaceTemplates/Files/Path.lean
  ==================================
  **Paths.**

  A path is a text whose segments are separated by slashes.  Empty segments and
  `.` inside a path mean nothing: paths are compared by the parts that are left.
  `join` is textual, and an absolute path replaces what it is joined to;
  `relative?` cuts off a root by parts and keeps the rest of the text as it is.
-/
import WorkspaceTemplates.Text.Pieces

namespace WorkspaceTemplates.Path

/-! ### Segments and parts -/

/-- The texts between the slashes. -/
def segments (path : String) : List String :=
  (Text.pieces '/' path.toList).map String.ofList

def ofSegments (segments : List String) : String := "/".intercalate segments

def isAbsolute (path : String) : Bool := path.toList.head? == some '/'

/-- Whether a segment means nothing. -/
def isIdle (segment : String) : Bool := segment == "" || segment == "."

/-- The most bytes that a segment may have. -/
def segmentLimit : Nat := 255

def isOverlong (segment : String) : Bool := segmentLimit < segment.utf8ByteSize

/-- The most bytes that a path may have. -/
def limit : Nat := 4095

inductive Part where
  /-- The root of all files. -/
  | root
  /-- A dot at the start of a path. -/
  | here
  /-- Two dots. -/
  | above
  | name (s : String)
deriving DecidableEq, Repr

def partOf? (segment : String) : Option Part :=
  if isIdle segment then none else if segment == ".." then some .above else some (.name segment)

def parts (path : String) : List Part :=
  let segs := segments path
  let named := segs.filterMap partOf?
  if isAbsolute path then .root :: named
  else if segs.head? == some "." then .here :: named
  else named

/-- The paths that end in one of some segments which is a name, the shortest first, when others
    stand before these. -/
def namedEnds (before : List String) : List String → List String
  | [] => []
  | s :: rest =>
    let ends := namedEnds (before ++ [s]) rest
    if isIdle s then ends else ofSegments (before ++ [s]) :: ends

/-- A path without its idle end and those above it, the longest first.  The last one has one
    name. -/
def ancestors (path : String) : List String := (namedEnds [] (segments path)).reverse

/-- The directory in which the last name of a path stands. -/
def parent (path : String) : String :=
  match (ancestors path).tail with
  | dir :: _ => dir
  | [] => if isAbsolute path then "/" else if (segments path).head? == some "." then "." else ""

/-! ### Joining -/

/-- Continue a path by another one, which replaces it when absolute. -/
def join (root path : String) : String :=
  if isAbsolute path then path
  else if root.isEmpty || root.toList.getLast? == some '/' then root ++ path
  else root ++ "/" ++ path

/-! ### Cutting off a root -/

/-- Drop the segments at the end that mean nothing. -/
def dropIdleEnd (segments : List String) : List String :=
  (segments.reverse.dropWhile isIdle).reverse

/-- Drop a number of segments that mean something, and those before them. -/
def dropNamed : Nat → List String → List String
  | 0, segs => segs
  | _, [] => []
  | n + 1, s :: segs => if isIdle s then dropNamed (n + 1) segs else dropNamed n segs

def trimmed (path : String) : String :=
  let segs := segments path
  if isAbsolute path then "/" ++ ofSegments (dropIdleEnd segs.tail)
  else if segs.head? == some "." then ofSegments ("." :: dropIdleEnd segs.tail)
  else ofSegments (dropIdleEnd segs)

/-- What follows a root in a path, when the parts of the root are the first ones of the path. -/
def relative? (root path : String) : Option String :=
  if (parts root).isPrefixOf (parts path) then
    if (parts root).isEmpty then some (trimmed path)
    else
      let named := (segments root).filterMap partOf?
      let rest := dropNamed named.length (segments path)
      some (ofSegments (dropIdleEnd (rest.dropWhile isIdle)))
  else none

/-- A path for the reader: relative to a root where possible, with slashes for backslashes. -/
def display (root path : String) : String :=
  String.ofList (((relative? root path).getD path).toList.map fun c => if c = '\\' then '/' else c)

/-! ### Names -/

def fileName? (path : String) : Option String :=
  match (parts path).getLast? with
  | some (.name s) => some s
  | _ => none

/-- The extension of a name: what follows its last dot, unless the name starts with that dot. -/
def extension? (name : String) : Option String :=
  (Text.afterLast? '.' name.toList).map String.ofList

end WorkspaceTemplates.Path

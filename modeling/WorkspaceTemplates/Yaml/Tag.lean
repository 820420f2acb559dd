/-
  WorkspaceTemplates/Yaml/Tag.lean
  ================================
  **Tags of nodes.**

  A tag is a run of bytes.  It need not be UTF-8, because a tag may spell any byte
  as `%` and two digits, and it ends before its first NUL byte, however it is
  written.  A tag that starts with an exclamation mark is local: it does not say
  what a scalar is, and its name is kept with the value.
-/

namespace WorkspaceTemplates.Yaml

/-- A tag, as its bytes. -/
abbrev Tag := List UInt8

namespace Tag

def untilNul (bytes : List UInt8) : Tag := bytes.takeWhile (· != 0)

def ofText (s : String) : Tag := untilNul s.toUTF8.data.toList

/-- The tag that is an exclamation mark only. -/
def mark : Tag := [0x21]

/-- The tags that say what a scalar is. -/
def bool : Tag := ofText "tag:yaml.org,2002:bool"
def int : Tag := ofText "tag:yaml.org,2002:int"
def float : Tag := ofText "tag:yaml.org,2002:float"
def null : Tag := ofText "tag:yaml.org,2002:null"

def isLocal (t : Tag) : Bool := t.head? == some 0x21

/-- The name that is kept of a tag: what follows its exclamation mark, or the mark if nothing
    does.  Only a name in UTF-8 is kept. -/
def keptName? (t : Tag) : Option String :=
  if t == mark then some "!"
  else if t.isLocal then String.fromUTF8? ⟨t.tail.toArray⟩
  else none

end Tag

end WorkspaceTemplates.Yaml

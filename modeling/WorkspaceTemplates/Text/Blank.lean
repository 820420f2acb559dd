/-
  WorkspaceTemplates/Text/Blank.lean
  ==================================
  **White space and trimming.**

  A character is blank when it has the Unicode property `White_Space`: six
  controls, the space, the no-break space and seventeen wider spaces and
  separators, twenty-five in all.  Placeholders may hold blanks after their
  colon, a text of blanks only displays as nothing, and answers typed at a
  prompt are trimmed of them.
-/

namespace WorkspaceTemplates.Text

/-- The property `White_Space` of Unicode. -/
def isBlank (c : Char) : Bool :=
  (0x09 ≤ c.toNat && c.toNat ≤ 0x0D) || c.toNat == 0x20 || c.toNat == 0x85
    || c.toNat == 0xA0 || c.toNat == 0x1680 || (0x2000 ≤ c.toNat && c.toNat ≤ 0x200A)
    || c.toNat == 0x2028 || c.toNat == 0x2029 || c.toNat == 0x202F || c.toNat == 0x205F
    || c.toNat == 0x3000

def dropBlankEnd (s : List Char) : List Char :=
  (s.reverse.dropWhile isBlank).reverse

def trimEnd (s : String) : String :=
  String.ofList (dropBlankEnd s.toList)

def trim (s : String) : String :=
  String.ofList (dropBlankEnd (s.toList.dropWhile isBlank))

def isAllBlank (s : String) : Bool :=
  s.toList.all isBlank

end WorkspaceTemplates.Text

/-
  WorkspaceTemplates/Text/Case.lean
  =================================
  **Upper and lower case of texts.**

  `lowerChar` and `upperChar` are the full, context-free case mappings of one
  character; `lower` maps a whole text and, alone among them, looks at the
  neighbours of a capital sigma: at the end of a word it becomes `ς`.
  `capitalize` raises the first character of a word and lowers the others.
-/
import WorkspaceTemplates.Text.CaseTable

namespace WorkspaceTemplates.Text

/-! ### One character -/

def mapCase (runs : List CaseRun) (expansions : List (Nat × List Nat)) (c : Char) : List Char :=
  match findRun runs c.toNat with
  | some r => [Char.ofNat (c.toNat + r.offset).toNat]
  | none =>
    match expansions.lookup c.toNat with
    | some ns => ns.map Char.ofNat
    | none => [c]

/-- The lower case of a character; only `İ` has two characters. -/
def lowerChar (c : Char) : List Char :=
  if c.toNat < 0x80 then [c.toLower] else mapCase lowerRuns lowerExpansions c

/-- The upper case of a character, such as the two characters `SS` of `ß`. -/
def upperChar (c : Char) : List Char :=
  if c.toNat < 0x80 then [c.toUpper] else mapCase upperRuns upperExpansions c

/-! ### Texts -/

/-- Whether the first character that is not case-ignorable is cased. -/
def reachesCased : List Char → Bool
  | [] => false
  | c :: rest =>
    if inIntervals caseIgnorableIntervals c.toNat then reachesCased rest
    else inIntervals casedIntervals c.toNat

/-- The lower case of the capital sigma: final exactly after a cased character and not
    before one, case-ignorable characters aside.  `before` is the text to its left, nearest
    character first. -/
def lowerSigma (before after : List Char) : Char :=
  if reachesCased before && !reachesCased after then 'ς' else 'σ'

/-- Lower case of a list of characters, given those before it, nearest first. -/
def lowerFrom (before : List Char) : List Char → List Char
  | [] => []
  | c :: rest =>
    (if c = 'Σ' then [lowerSigma before rest] else lowerChar c) ++ lowerFrom (c :: before) rest

def lower (s : String) : String :=
  String.ofList (lowerFrom [] s.toList)

/-- Capitalize a list of characters: upper case for the first, lower case, one by one, for
    the others. -/
def capitalizeChars : List Char → List Char
  | [] => []
  | c :: rest => upperChar c ++ rest.flatMap lowerChar

def capitalize (s : String) : String :=
  String.ofList (capitalizeChars s.toList)

end WorkspaceTemplates.Text

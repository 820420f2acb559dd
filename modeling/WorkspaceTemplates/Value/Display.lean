/-
  WorkspaceTemplates/Value/Display.lean
  =====================================
  **How a value shows in a rendered template.**

  Null and texts of blanks show as nothing, other texts as they are; a list
  shows its first three items and says how many more there are; empty lists and
  maps show as `None`.
-/
import WorkspaceTemplates.Text.Blank
import WorkspaceTemplates.Value

namespace WorkspaceTemplates.Value

/-- The number of items of a list that are shown. -/
def shownItems : Nat := 3

def displayList (items : List String) : String :=
  if items.isEmpty then "None"
  else if items.length ≤ shownItems then ", ".intercalate items
  else
    ", ".intercalate (items.take shownItems) ++ ", and "
      ++ (items.length - shownItems).repr ++ " more"

def display : Value → String
  | .null => ""
  | .bool b => boolText b
  | .int i => intText i
  | .text s => if Text.isAllBlank s then "" else s
  | .list items => displayList items
  | .map keys sorted value => if keys.isEmpty then "None" else plain (.map keys sorted value)

end WorkspaceTemplates.Value

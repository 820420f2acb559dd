/-
  WorkspaceTemplates/Json/Record.lean
  ===================================
  **Records in JSON.**

  A record is an object with its fields as members, or an array with its fields in
  order.  Members that are no fields are ignored; a field may not come twice.
-/
import WorkspaceTemplates.Json.Basic

namespace WorkspaceTemplates.Json

/-- The values of the fields of a record, those left out included. -/
def fields? (names : List String) : Json → Option (List (Option Json))
  | .object members =>
    let known := (members.map (·.1)).filter names.contains
    if known.length = known.eraseDups.length then
      some (names.map fun n => members.lookup n)
    else none
  | .array items =>
    if items.length ≤ names.length then
      some (items.map some ++ List.replicate (names.length - items.length) none)
    else none
  | _ => none

def strings? (j : Json) : Option (List String) :=
  j.array?.bind fun items => items.mapM string?

/-- The value of a field that may be left out. -/
def orElse {α : Type} (read : Json → Option α) (absent : α) : Option Json → Option α
  | some j => read j
  | none => some absent

end WorkspaceTemplates.Json

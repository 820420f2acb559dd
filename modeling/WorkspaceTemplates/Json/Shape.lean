/-
  WorkspaceTemplates/Json/Shape.lean
  ==================================
  **Which parts of a JSON text are wanted.**

  A shape names the fields of the records that a reader looks at.  A member of an
  object that is no field is left out, and nothing but its grammar matters.
-/

namespace WorkspaceTemplates

/-- What is wanted of a value. -/
inductive Json.Shape where
  /-- Everything. -/
  | whole
  /-- The items of an array. -/
  | list (item : Shape)
  /-- The fields of a record. -/
  | record (fields : List (String × Shape))

namespace Json.Shape

/-- What is wanted of the item of an array at a place; a record may be an array of its fields. -/
def item (shape : Shape) (place : Nat) : Shape :=
  match shape with
  | .whole => .whole
  | .list item => item
  | .record fields => (fields[place]?).elim .whole (·.2)

/-- What is wanted of a member of an object, unless it is left out. -/
def member? (shape : Shape) (name : String) : Option Shape :=
  match shape with
  | .record fields => fields.lookup name
  | _ => some .whole

end Json.Shape

end WorkspaceTemplates

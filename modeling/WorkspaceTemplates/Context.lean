/-
  WorkspaceTemplates/Context.lean
  ===============================
  **Contexts.**

  A context describes one project: a dictionary from keys to values.  It is read
  from a file or collected by an interview, completed by defaults, and consulted
  by templates.
-/
import WorkspaceTemplates.Value

namespace WorkspaceTemplates

/-- The description of a project. -/
abbrev Context := Dictionary Value

namespace Context

def text? (ctx : Context) (key : String) : Option String :=
  (ctx.get? key).bind Value.text?

def list? (ctx : Context) (key : String) : Option (List String) :=
  (ctx.get? key).bind Value.list?

def map? (ctx : Context) (key : String) : Option (List (String × Value)) :=
  (ctx.get? key).bind Value.map?

def hasText (ctx : Context) (key expected : String) : Bool :=
  ctx.text? key == some expected

end Context

end WorkspaceTemplates

/-
  WorkspaceTemplates/Template/Source.lean
  =======================================
  **Where templates come from.**

  Templates come from layers: the texts that are always at hand, and directories
  laid out like a workspace.  The first layer that has a template is used.
-/
import WorkspaceTemplates.Files.Disk
import WorkspaceTemplates.Template.Builtin

namespace WorkspaceTemplates

/-- A source of templates. -/
inductive TemplateLayer where
  /-- The texts that are always at hand. -/
  | builtin
  /-- A directory, by its path. -/
  | directory (path : String)
deriving DecidableEq, Repr

namespace TemplateLayer

/-- The text of a template in a layer, if the layer has it. -/
def text? (layer : TemplateLayer) (disk : Disk) (t : Template) : Except Fault (Option String) :=
  match layer with
  | .builtin => .ok (some t.builtinText)
  | .directory path =>
    let file := Path.join path t.place
    if disk.isFile file then (disk.readText file).map some else .ok none

/-- The builtin texts below an optional directory. -/
def builtinBelow (directory? : Option String) : List TemplateLayer :=
  match directory? with
  | some path => [.directory path, .builtin]
  | none => [.builtin]

end TemplateLayer

namespace Template

/-- The text of a template in the first layer that has it. -/
def text? (t : Template) (disk : Disk) : List TemplateLayer → Except Fault (Option String)
  | [] => .ok none
  | layer :: rest =>
    match layer.text? disk t with
    | .ok (some s) => .ok (some s)
    | .ok none => t.text? disk rest
    | .error f => .error f

def demand (t : Template) (disk : Disk) (layers : List TemplateLayer) : Except Fault String :=
  match t.text? disk layers with
  | .ok (some s) => .ok s
  | .ok none => .error (.templateNotFound t.name)
  | .error f => .error f

def load (disk : Disk) (path : String) : Except Fault String :=
  if disk.isFile path then disk.readText path else .error (.templateNotFound path)

end Template

end WorkspaceTemplates

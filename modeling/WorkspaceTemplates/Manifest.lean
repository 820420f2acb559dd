/-
  WorkspaceTemplates/Manifest.lean
  ================================
  **Lists of the files in a workspace.**

  The rules and the commands of a workspace are each listed in a JSON file, which
  says of every file when it is to be loaded.  A trigger is a test that the context
  passes; a file whose key is not known has none, even if it was forced.
-/
import WorkspaceTemplates.Json.Writer
import WorkspaceTemplates.Layout
import WorkspaceTemplates.Selection

namespace WorkspaceTemplates

/-! ### Triggers -/

/-- A test of the value of a key. -/
inductive Trigger where
  /-- The key has another value than this one; nothing stands for null. -/
  | differs (key : String) (value : Option String)
  /-- The text of the value contains this one. -/
  | contains (key value : String)
deriving DecidableEq, Repr

/-- When a file is to be loaded. -/
structure LoadConditions where
  alwaysLoad : Bool
  /-- The keys that the context needs. -/
  required : List String
  triggers : List Trigger
deriving DecidableEq, Repr

namespace LoadConditions

/-- The triggers of a key that hold in a context. -/
def triggersFor (ctx : Context) (key : String) : List Trigger :=
  if key == "containerization" then
    if Condition.docker.holds ctx then [.contains key "docker"] else []
  else if Selection.isKnown ctx key then
    [.differs key (some Selection.unknown), .differs key none]
  else []

def ofKey (ctx : Context) (key? : Option String) : LoadConditions :=
  match key? with
  | none => ⟨true, [], []⟩
  | some key => ⟨false, [key], triggersFor ctx key⟩

end LoadConditions

namespace Manifest

def version : String := "1.0"

def projectName (ctx : Context) : String := (ctx.text? "project_name").getD "Project"

def ruleUseWhen (ctx : Context) (l : Level) : String :=
  match l.gatingKey? with
  | none =>
    if l = .core then "always - these are fundamental rules that apply to all projects"
    else "always - architecture rules apply to all projects"
  | some key =>
    "when " ++ key ++ " is '" ++ ((ctx.get? key).map Value.plain).getD key
      ++ "' and not 'unknown'"

/-! ### As JSON -/

def triggerJson : Trigger → Json
  | .differs key value =>
    .object [("action", .string "load"), ("field", .string key), ("operator", .string "!="),
      ("value", (value.map .string).getD .null)]
  | .contains key value =>
    .object [("action", .string "load"), ("field", .string key),
      ("operator", .string "contains"), ("value", .string value)]

def conditionsJson (c : LoadConditions) : Json :=
  .object [("always_load", .bool c.alwaysLoad), ("context_required", Json.strings c.required),
    ("triggers", .array (c.triggers.map triggerJson))]

def ruleEntry (ctx : Context) (l : Level) : Json :=
  .object [("always_load", .bool l.alwaysLoad),
    ("conditions", conditionsJson (.ofKey ctx l.gatingKey?)),
    ("context_required", Json.strings l.gatingKey?.toList),
    ("description", .string l.description),
    ("file", .string l.fileName),
    ("level", Json.ofNat l.number),
    ("load_order", Json.ofNat l.number),
    ("name", .string l.name),
    ("path", .string (Layout.rule l)),
    ("use_when", .string (ruleUseWhen ctx l))]

def rules (ctx : Context) (levels : List Level) : Json :=
  .object [("project", .string (projectName ctx)),
    ("rules", .array (levels.map (ruleEntry ctx))),
    ("version", .string version)]

def commandEntry (ctx : Context) (c : Command) : Json :=
  .object [("conditions", conditionsJson (.ofKey ctx c.gatingKey?)),
    ("description", .string c.description),
    ("file", .string c.fileName),
    ("kind", .string c.name),
    ("load_order", Json.ofNat c.loadOrder),
    ("path", .string (Layout.command c)),
    ("use_when", .string c.useWhen)]

def commands (ctx : Context) (kinds : List Command) : Json :=
  .object [("commands", .array (kinds.map (commandEntry ctx))),
    ("project", .string (projectName ctx)),
    ("version", .string version)]

def text (manifest : Json) : String := manifest.pretty ++ "\n"

end Manifest

end WorkspaceTemplates

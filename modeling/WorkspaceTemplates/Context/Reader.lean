/-
  WorkspaceTemplates/Context/Reader.lean
  ======================================
  **Reading contexts.**

  A context is written as a JSON object or as a YAML mapping.  Of entries with the
  same key the last one counts, at the top level only: further down a key may not
  come twice.  A YAML text of blanks, or without a document, is the empty context;
  a JSON text has to hold an object.
-/
import WorkspaceTemplates.Context
import WorkspaceTemplates.Data
import WorkspaceTemplates.Fault
import WorkspaceTemplates.Json.Reader
import WorkspaceTemplates.Text.Blank
import WorkspaceTemplates.Yaml.Meaning

namespace WorkspaceTemplates.Context

/-! ### JSON -/

def ofMembers? (members : List (String × Json)) : Option Context :=
  members.foldlM (fun (ctx : Context) m => (Value.ofJson? m.2).map (ctx.insert m.1))
    Dictionary.empty

def ofJsonText (text : String) : Except Fault Context :=
  match ((Json.parse? text).bind Json.object?).bind ofMembers? with
  | some ctx => .ok ctx
  | none => .error .json

/-! ### YAML -/

/-- Add an entry of the top-level mapping, whose key has to be a scalar and counts as its text.
    The counter says how often aliases were followed. -/
def withEntry (d : Yaml.Document) (acc : Context × Nat) (e : Yaml.Node × Yaml.Node) :
    Option (Context × Nat) :=
  (d.follow? e.1 acc.2).bind fun (k, used) =>
    match k with
    | .scalar _ _ _ key =>
      (d.data? (Yaml.Document.nestingLimit - 1) e.2 used).map fun (x, used) =>
        (acc.1.insert key (Value.ofData x), used)
    | _ => none

def ofDocument? (d : Yaml.Document) : Option Context :=
  match d.root with
  | none => some Dictionary.empty
  | some (.mapping _ _ entries) =>
    (entries.foldlM (withEntry d) (Dictionary.empty, 0)).map (·.1)
  | some n => if Yaml.Document.isVoid n then some Dictionary.empty else none

def ofYamlText (text : String) : Except Fault Context :=
  if Text.isAllBlank text then .ok Dictionary.empty
  else
    match (Yaml.Document.parse? text).bind ofDocument? with
    | some ctx => .ok ctx
    | none => .error .yaml

end WorkspaceTemplates.Context

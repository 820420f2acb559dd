/-
  WorkspaceTemplates/Generate.lean
  ================================
  **Generating a workspace.**

  Everything is rendered before anything is written, in one order: the rules that
  are read first, the rules of each level, the commands of each kind, the guide for
  agents, and then the lists of the rules and of the commands.  In strict mode the
  first file with a name that has no value stops the generation, and nothing is
  written.
-/
import WorkspaceTemplates.Config
import WorkspaceTemplates.Engine
import WorkspaceTemplates.Manifest
import WorkspaceTemplates.Report
import WorkspaceTemplates.Template.Source

namespace WorkspaceTemplates

structure GenerateOptions where
  /-- Whether a name without a value stops the generation. -/
  strict : Bool
  /-- Whether files that exist are replaced. -/
  overwrite : Bool
  /-- The levels that are generated in any case. -/
  forced : List Level
deriving DecidableEq, Repr

def GenerateOptions.ofConfig (c : Config) : GenerateOptions :=
  ⟨c.strict, c.overwrite, c.forcedLevels⟩

/-- A file that is to be written. -/
structure PlannedFile where
  path : String
  /-- The path as it is reported, relative to the root of the workspace. -/
  label : String
  text : String
  /-- The names of its template that had no value. -/
  missing : List String
deriving DecidableEq, Repr

namespace Generate

/-! ### Planning -/

def fileAt (root place text : String) (missing : List String) : PlannedFile :=
  let path := Path.join root place
  ⟨path, Path.display root path, text, missing⟩

def templates (levels : List Level) (kinds : List Command) : List Template :=
  .cursorRules :: levels.map .rule ++ kinds.map .command ++ [.agents]

def renderTemplate (disk : Disk) (layers : List TemplateLayer) (root : String) (ctx : Context)
    (t : Template) : Except Fault PlannedFile :=
  match t.demand disk layers with
  | .ok text =>
    let r := Engine.standard.render text ctx
    .ok (fileAt root t.target r.output r.missing)
  | .error f => .error f

def renderAll (disk : Disk) (layers : List TemplateLayer) (root : String) (ctx : Context) :
    List Template → Except Fault (List PlannedFile)
  | [] => .ok []
  | t :: rest =>
    match renderTemplate disk layers root ctx t with
    | .ok file =>
      match renderAll disk layers root ctx rest with
      | .ok files => .ok (file :: files)
      | .error f => .error f
    | .error f => .error f

def manifests (root : String) (ctx : Context) (levels : List Level) (kinds : List Command) :
    List PlannedFile :=
  [fileAt root Layout.rulesManifest (Manifest.text (Manifest.rules ctx levels)) [],
    fileAt root Layout.commandsManifest (Manifest.text (Manifest.commands ctx kinds)) []]

/-- All files of a workspace for a completed context, in the order in which they are written. -/
def plan (disk : Disk) (layers : List TemplateLayer) (options : GenerateOptions) (root : String)
    (ctx : Context) : Except Fault (List PlannedFile) :=
  let levels := Selection.levels ctx options.forced
  let kinds := Selection.commands ctx
  match renderAll disk layers root ctx (templates levels kinds) with
  | .ok files =>
    match if options.strict then files.find? (fun f => !f.missing.isEmpty) else none with
    | some bad => .error (.unresolved bad.label bad.missing)
    -- the lists are no templates and lack nothing
    | none => .ok (files ++ manifests root ctx levels kinds)
  | .error f => .error f

/-! ### Writing -/

def writeFile (overwrite : Bool) (file : PlannedFile) : DiskM GeneratedFile := do
  let outcome ← DiskM.writeGenerated file.path file.text overwrite
  return ⟨file.label, outcome, file.missing⟩

def writeAll (overwrite : Bool) : List PlannedFile → DiskM (List GeneratedFile)
  | [] => return []
  | file :: rest => do
    let written ← writeFile overwrite file
    let others ← writeAll overwrite rest
    return written :: others

end Generate

def generate (layers : List TemplateLayer) (options : GenerateOptions) (root : String)
    (ctx : Context) : DiskM Report := do
  let completed := Engine.standard.normalize ctx
  let files ← DiskM.demand fun disk => Generate.plan disk layers options root completed
  return ⟨← Generate.writeAll options.overwrite files⟩

end WorkspaceTemplates

/-
  WorkspaceTemplates/Context/File.lean
  ====================================
  **Context files.**

  A file whose name has the extension `json`, in any case, holds JSON; every other
  file holds YAML.  Contexts are always saved as YAML.
-/
import WorkspaceTemplates.Context.Reader
import WorkspaceTemplates.Context.Writer
import WorkspaceTemplates.Files.Disk

namespace WorkspaceTemplates.Context

def isJsonPath (path : String) : Bool :=
  match (Path.fileName? path).bind Path.extension? with
  | some e => e.toList.map Char.toLower == "json".toList
  | none => false

def load (disk : Disk) (path : String) : Except Fault Context :=
  match disk.readText path with
  | .ok text => if isJsonPath path then ofJsonText text else ofYamlText text
  | .error f => .error f

def save (ctx : Context) (path : String) : DiskM Unit :=
  DiskM.writeAtomically path ctx.yamlText.toUTF8

end WorkspaceTemplates.Context

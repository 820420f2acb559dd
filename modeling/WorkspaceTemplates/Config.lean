/-
  WorkspaceTemplates/Config.lean
  ==============================
  **The configuration of a workspace.**

  A configuration says where further templates are, whether names without a value
  stop the generation, whether files are replaced, and which rules are generated
  whatever the context says.  `warnings` says what is wrong with one.
-/
import WorkspaceTemplates.Files.Disk
import WorkspaceTemplates.Layout
import WorkspaceTemplates.Yaml.Writer

namespace WorkspaceTemplates

inductive Severity where
  | warning
  | error
deriving DecidableEq, Repr

def Severity.name : Severity → String
  | .warning => "warning"
  | .error => "error"

structure ConfigWarning where
  severity : Severity
  message : String
deriving DecidableEq, Repr

structure Config where
  version : UInt32
  /-- The directory of templates that go before the builtin ones, relative to the root. -/
  templatesDir? : Option String
  /-- Whether a name without a value stops the generation. -/
  strict : Bool
  /-- Whether files that exist are replaced. -/
  overwrite : Bool
  /-- Names or numbers of levels that are generated in any case. -/
  levels : List String
deriving DecidableEq, Repr

namespace Config

/-- The only version there is. -/
def currentVersion : UInt32 := 1

/-- The configuration of a workspace that has none. -/
def standard : Config where
  version := currentVersion
  templatesDir? := none
  strict := false
  overwrite := true
  levels := []

/-- The levels that are generated in any case. -/
def forcedLevels (c : Config) : List Level := c.levels.filterMap Level.ofText?

def templatesPath? (c : Config) (root : String) : Option String :=
  c.templatesDir?.map (Path.join root)

/-! ### Problems -/

def versionWarnings (c : Config) : List ConfigWarning :=
  if c.version = currentVersion then []
  else
    [⟨.error, "unsupported config version " ++ c.version.toNat.repr ++ " (expected "
      ++ currentVersion.toNat.repr ++ ")"⟩]

def levelWarnings (c : Config) : List ConfigWarning :=
  (c.levels.filter fun l => (Level.ofText? l).isNone).map fun l =>
    ⟨.warning, "unknown rule level '" ++ l ++ "' in rules.levels"⟩

def templatesWarnings (c : Config) (disk : Disk) (root : String) : List ConfigWarning :=
  match c.templatesPath? root with
  | some path =>
    if disk.isDir path then [] else [⟨.error, "templates_dir '" ++ path ++ "' does not exist"⟩]
  | none => []

def warnings (c : Config) (disk : Disk) (root : String) : List ConfigWarning :=
  c.versionWarnings ++ c.levelWarnings ++ c.templatesWarnings disk root

/-! ### Writing -/

def toTrees (c : Config) : List (String × Yaml.Tree) :=
  [("version", .word c.version.toNat.repr)]
    ++ (c.templatesDir?.toList.map fun dir => ("templates_dir", .text dir))
    ++ [("strict", .word (Value.boolText c.strict)),
      ("overwrite", .word (Value.boolText c.overwrite)),
      ("rules", .mapping
        (if c.levels.isEmpty then [] else [("levels", .sequence (c.levels.map .text))]))]

def yamlText (c : Config) : String := Yaml.documentText c.toTrees

def toJson (c : Config) : Json :=
  .object ([("version", Json.ofNat c.version.toNat)]
    ++ (c.templatesDir?.toList.map fun dir => ("templates_dir", .string dir))
    ++ [("strict", .bool c.strict), ("overwrite", .bool c.overwrite),
      ("rules", .object
        (if c.levels.isEmpty then [] else [("levels", Json.strings c.levels)]))])

def save (c : Config) (root : String) : DiskM Unit :=
  DiskM.writeAtomically (Path.join root Layout.config) c.yamlText.toUTF8

end Config

end WorkspaceTemplates

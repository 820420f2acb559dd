/-
  WorkspaceTemplates/Layout.lean
  ==============================
  **Where the files of a workspace are.**

  All paths are relative to the root of the workspace.
-/
import WorkspaceTemplates.Command
import WorkspaceTemplates.Files.Path
import WorkspaceTemplates.Level

namespace WorkspaceTemplates.Layout

/-- The rules that every tool reads first. -/
def cursorRules : String := ".cursorrules"

def cursorDir : String := ".cursor"

def rulesDir : String := ".cursor/rules"

def commandsDir : String := ".cursor/commands"

def hooksDir : String := ".cursor/hooks"

def rulesManifest : String := ".cursor/rules/rules_manifest.json"

def commandsManifest : String := ".cursor/commands/commands_manifest.json"

def agentsGuide : String := ".cursor/AGENTS.md"

def config : String := "scaffold.yaml"

def rule (l : Level) : String := rulesDir ++ "/" ++ l.fileName

def command (c : Command) : String := commandsDir ++ "/" ++ c.fileName

/-- The files that no workspace is without. -/
def required : List String := [cursorRules, rulesManifest, commandsManifest]

end WorkspaceTemplates.Layout

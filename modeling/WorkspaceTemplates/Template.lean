/-
  WorkspaceTemplates/Template.lean
  ================================
  **The templates of a workspace.**

  There is one template for each file that is rendered: the rules that are read
  first, the rules of each level, the commands of each kind, and the guide for
  agents.  A template has a short name, a place in directories of templates, and a
  place for the file rendered from it.
-/
import WorkspaceTemplates.Layout

namespace WorkspaceTemplates

inductive Template where
  | cursorRules
  | rule (level : Level)
  | command (kind : Command)
  | agents
deriving DecidableEq, Repr

namespace Template

def all : List Template :=
  cursorRules :: Level.all.map rule ++ Command.all.map command ++ [agents]

theorem mem_all (t : Template) : t ∈ all := by
  rcases t with _ | l | c | _
  · decide
  · cases l <;> decide
  · cases c <;> decide
  · decide

def name : Template → String
  | cursorRules => "cursorrules"
  | rule l => "rule:" ++ l.name
  | command c => "command:" ++ c.name
  | agents => "agents"

def ofName? (text : String) : Option Template := all.find? (·.name = text)

/-- The file that is rendered from a template, relative to the root of the workspace. -/
def target : Template → String
  | cursorRules => Layout.cursorRules
  | rule l => Layout.rule l
  | command c => Layout.command c
  | agents => Layout.agentsGuide

/-- The place of a template in a directory of templates. -/
def place (t : Template) : String := t.target ++ ".template"

end Template

end WorkspaceTemplates

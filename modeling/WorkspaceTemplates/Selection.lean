/-
  WorkspaceTemplates/Selection.lean
  =================================
  **Which files a project needs.**

  A key of the context is known when it carries something other than the text
  `unknown`.  Rules and commands that depend on a key are needed when it is known;
  those for containers when the project uses containers.
-/
import WorkspaceTemplates.Command
import WorkspaceTemplates.Condition
import WorkspaceTemplates.Level

namespace WorkspaceTemplates.Selection

def unknown : String := "unknown"

/-- Whether a key carries something other than the text `unknown`. -/
def isKnown (ctx : Context) (key : String) : Bool :=
  match ctx.get? key with
  | some v => !v.isEmpty && v.plain != unknown
  | none => false

def needsLevel (ctx : Context) (forced : List Level) (l : Level) : Bool :=
  match l.gatingKey? with
  | none => true
  | some key => isKnown ctx key || forced.contains l

/-- The levels whose rules are needed, in order; those that are forced are needed in any case. -/
def levels (ctx : Context) (forced : List Level) : List Level :=
  Level.all.filter (needsLevel ctx forced)

def needsCommand (ctx : Context) : Command → Bool
  | .test => isKnown ctx "testing_framework"
  | .build => true
  | .deploy => isKnown ctx "deployment_type"
  | .docker => Condition.docker.holds ctx

def commands (ctx : Context) : List Command := Command.all.filter (needsCommand ctx)

end WorkspaceTemplates.Selection

/-
  WorkspaceTemplates/Command.lean
  ===============================
  **Kinds of commands.**

  A workspace holds one file of commands for each thing one does with the
  project.  Building is always described; the other kinds depend on one key of
  the context.
-/
import WorkspaceTemplates.Fault

namespace WorkspaceTemplates

/-- What the commands of a file do. -/
inductive Command where
  | test
  | build
  | deploy
  | docker
deriving DecidableEq, Repr

namespace Command

/-- All kinds, in the order in which their files are written. -/
def all : List Command := [.test, .build, .deploy, .docker]

theorem mem_all (c : Command) : c ∈ all := by cases c <;> decide

def name : Command → String
  | test => "test"
  | build => "build"
  | deploy => "deploy"
  | docker => "docker"

def fileName (c : Command) : String := c.name ++ "-commands.mdc"

def description : Command → String
  | test => "Run the project's test suite"
  | build => "Build the project"
  | deploy => "Deploy the project"
  | docker => "Build and run container images"

/-- The key of the context that decides whether a kind is generated. -/
def gatingKey? : Command → Option String
  | test => some "testing_framework"
  | build => none
  | deploy => some "deployment_type"
  | docker => some "containerization"

def loadOrder : Command → Nat
  | build => 1
  | test => 2
  | deploy => 3
  | docker => 4

def useWhen : Command → String
  | test => "when testing_framework is present and not 'unknown'"
  | build => "always - build commands are needed for all projects"
  | deploy => "when deployment_type is present and not 'unknown'"
  | docker => "when Docker containerization is detected"

def ofName? (text : String) : Option Command :=
  all.find? (·.name = text)

def parse (text : String) : Except Fault Command :=
  match ofName? text with
  | some c => .ok c
  | none => .error (.unknownCommandKind text)

end Command

end WorkspaceTemplates

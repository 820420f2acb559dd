/-
  WorkspaceTemplates/Interview/Answers.lean
  =========================================
  **What an interview finds out, and the context that it makes of it.**
-/
import WorkspaceTemplates.Context

namespace WorkspaceTemplates

/-- What kind of project this is. -/
structure Classification where
  name : String
  projectType : String
  language : String
deriving DecidableEq, Repr

/-- What the project is built with. -/
structure TechStack where
  frameworks : List String
  /-- Details about the first framework. -/
  extras : List String
  /-- The services, if the type of project has any. -/
  services? : Option (List String)
  ports : List String
  architecture : String
deriving DecidableEq, Repr

/-- Where and with what the project runs. -/
structure Requirements where
  deployment : String
  networking : String
  databases : List String
  /-- Further requirements; empty if there are none. -/
  constraints : String
deriving DecidableEq, Repr

/-- How the project is worked on. -/
structure Workflow where
  standards : String
  organization : String
  testing : String
deriving DecidableEq, Repr

structure Confirmation where
  confirmed : Bool
  /-- The lines of an example. -/
  exampleLines : List String
deriving DecidableEq, Repr

structure Answers where
  project : Classification
  stack : TechStack
  requirements : Requirements
  workflow : Workflow
  confirmation : Confirmation
deriving DecidableEq, Repr

/-! ### The context of the answers -/

namespace Classification

def entries (c : Classification) : List (String × Value) :=
  [("project_name", .text c.name), ("project_type", .text c.projectType),
    ("primary_language", .text c.language)]

end Classification

namespace TechStack

def entries (s : TechStack) : List (String × Value) :=
  (s.services?.toList.map fun services => ("services", .list services))
    ++ [("ports", .list s.ports), ("architecture", .text s.architecture)]
    ++ (s.frameworks.head?.toList.map fun first => ("framework", .text first))
    ++ (if s.extras.isEmpty then [] else [("technologies", .list (s.frameworks ++ s.extras))])
    ++ [("frameworks", .list s.frameworks)]

end TechStack

namespace Requirements

/-- The entry that goes with a kind of deployment. -/
def platformEntries (deployment : String) : List (String × Value) :=
  match deployment with
  | "docker" => [("containerization", .list ["docker"])]
  | "kubernetes" => [("orchestration", .list ["kubernetes"])]
  | _ => []

def entries (r : Requirements) : List (String × Value) :=
  platformEntries r.deployment
    ++ [("deployment_type", .text r.deployment), ("networking", .text r.networking),
      ("databases", .list r.databases)]
    ++ (if r.constraints.isEmpty then [] else [("constraints", .text r.constraints)])

end Requirements

namespace Workflow

def entries (w : Workflow) : List (String × Value) :=
  [("coding_standards", .text w.standards), ("file_organization", .text w.organization),
    ("testing_framework", .text w.testing)]

end Workflow

namespace Confirmation

def entries (c : Confirmation) : List (String × Value) :=
  ("confirmed", .bool c.confirmed)
    :: (if c.exampleLines.isEmpty then []
      else [("examples", .text ("\n".intercalate c.exampleLines))])

end Confirmation

def Answers.toContext (a : Answers) : Context :=
  Dictionary.ofList (a.project.entries ++ a.stack.entries ++ a.requirements.entries
    ++ a.workflow.entries ++ a.confirmation.entries)

end WorkspaceTemplates

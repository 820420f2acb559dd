/-
  WorkspaceTemplates/Interview.lean
  =================================
  **Interviews.**

  An interview asks about a project in five phases and makes a context of the
  answers, completed by the defaults of an engine.
-/
import WorkspaceTemplates.Engine
import WorkspaceTemplates.Interview.Questions

namespace WorkspaceTemplates.Interview

open DialogueM

def askAll : DialogueM Answers := do
  let project ← askClassification
  let stack ← askTechStack project
  let requirements ← askRequirements
  let workflow ← askWorkflow project.language
  let confirmation ← askConfirmation (recap project stack requirements workflow)
  return ⟨project, stack, requirements, workflow, confirmation⟩

def conduct (engine : Engine) : DialogueM Context := do
  sayLine "Starting 5-phase interview for new project setup..."
  let answers ← askAll
  let ctx := engine.normalize answers.toContext
  sayLine ("\n" ++ ruleLine)
  sayLine ("Interview completed. Collected " ++ ctx.size.repr ++ " context variables.")
  return ctx

/-- Hold an interview with a script, on an output with room for some number of bytes.  The second
    component is the dialogue as it ended. -/
def run (engine : Engine) (script : Script) (room : Option Nat) :
    Except Fault Context × Dialogue :=
  (conduct engine).runOn (Dialogue.start script room)

end WorkspaceTemplates.Interview

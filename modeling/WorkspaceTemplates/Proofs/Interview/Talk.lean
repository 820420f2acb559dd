/-
  WorkspaceTemplates/Proofs/Interview/Talk.lean
  =============================================
  **What an interview is made of.**

  A `Talk` is put together from prompts, answers and examples; what is said and asked
  next may depend on the answers.  All questions of an interview but the first are
  talks, so a property that prompts, answers and examples have, and that is kept when
  computations follow one another, is one of them all.  The first question is another
  matter (`askClassification_eq`): it tells the end of input from a blank line, and
  either of them ends the interview.
-/
import WorkspaceTemplates.Proofs.Interview.Run

namespace WorkspaceTemplates

namespace DialogueM

/-- A computation that is made of prompts, answers and examples. -/
inductive Talk : {α : Type} → DialogueM α → Prop where
  | pure {α : Type} (x : α) : Talk (Pure.pure x)
  | say (text : String) : Talk (say text)
  | answer (prompt : String) : Talk (answer prompt)
  | readExample : Talk readExample
  | bind {α β : Type} {m : DialogueM α} {f : α → DialogueM β} (hm : Talk m)
      (hf : ∀ x, Talk (f x)) : Talk (m >>= f)

theorem talk_sayLine (text : String) : Talk (sayLine text) := Talk.say _

theorem talk_sayLines (lines : List String) : Talk (sayLines lines) := by
  induction lines with
  | nil => exact Talk.pure _
  | cons line rest ih => exact (talk_sayLine line).bind fun _ => ih

end DialogueM

namespace Interview

open DialogueM

/-! ### The questions -/

theorem talk_menu (m : Menu) : Talk m.ask := by
  refine (talk_sayLine _).bind fun _ => (talk_sayLines _).bind fun _ =>
    (Talk.answer _).bind fun choice => ?_
  dsimp only
  split
  · exact (Talk.answer _).bind fun _ => Talk.pure _
  · exact Talk.pure _

theorem talk_askFramework (framework : String) : Talk (askFramework framework) := by
  unfold askFramework
  dsimp only
  split
  · exact (talk_sayLine _).bind fun _ => (Talk.answer _).bind fun _ => Talk.pure _
  · split
    · exact (talk_sayLine _).bind fun _ => (Talk.answer _).bind fun _ => Talk.pure _
    · split
      · exact (talk_sayLine _).bind fun _ => (Talk.answer _).bind fun _ => Talk.pure _
      · exact Talk.pure _

theorem talk_askServices (projectType : String) : Talk (askServices projectType) := by
  unfold askServices
  split
  · exact (talk_sayLine _).bind fun _ => (Talk.answer _).bind fun _ => Talk.pure _
  · exact Talk.pure _

theorem talk_checkPorts (given : String) : Talk (checkPorts given) := by
  rw [checkPorts]
  split
  · exact Talk.pure _
  · exact (talk_sayLine _).bind fun _ => Talk.pure _

theorem talk_askPorts (frameworks : List String) : Talk (askPorts frameworks) := by
  rw [askPorts_eq]
  exact (talk_sayLine _).bind fun _ => (Talk.answer _).bind fun _ =>
    (talk_checkPorts _).bind fun _ => Talk.pure _

theorem talk_askFirst (frameworks : List String) : Talk (askFirst frameworks) := by
  rw [askFirst]
  split
  · exact talk_askFramework _
  · exact Talk.pure _

theorem talk_askTechStack (project : Classification) : Talk (askTechStack project) := by
  rw [askTechStack_eq]
  exact (talk_sayLine _).bind fun _ => (talk_sayLine _).bind fun _ =>
    (Talk.answer _).bind fun _ => (talk_askFirst _).bind fun _ =>
      (talk_askServices _).bind fun _ => (talk_askPorts _).bind fun _ =>
        (talk_sayLine _).bind fun _ => (talk_sayLine _).bind fun _ =>
          (Talk.answer _).bind fun _ => Talk.pure _

theorem talk_askRequirements : Talk askRequirements :=
  (talk_sayLine _).bind fun _ => (talk_menu _).bind fun _ =>
    (talk_sayLine _).bind fun _ => (Talk.answer _).bind fun _ =>
      (talk_sayLine _).bind fun _ => (Talk.answer _).bind fun _ =>
        (talk_sayLine _).bind fun _ => (Talk.answer _).bind fun _ => Talk.pure _

theorem talk_askWorkflow (language : String) : Talk (askWorkflow language) :=
  (talk_sayLine _).bind fun _ => (talk_sayLine _).bind fun _ =>
    (talk_sayLine _).bind fun _ => (Talk.answer _).bind fun _ =>
      (talk_sayLine _).bind fun _ => (Talk.answer _).bind fun _ =>
        (talk_sayLine _).bind fun _ => (Talk.answer _).bind fun _ => Talk.pure _

theorem talk_askExample : Talk askExample := by
  refine (talk_sayLine _).bind fun _ => (Talk.answer _).bind fun reply => ?_
  split
  · exact (talk_sayLine _).bind fun _ => Talk.readExample
  · exact Talk.pure _

theorem talk_askConfirmation (shown : List String) : Talk (askConfirmation shown) := by
  refine (talk_sayLine _).bind fun _ => (talk_sayLine _).bind fun _ =>
    (talk_sayLines _).bind fun _ => (talk_sayLine _).bind fun _ =>
      (Talk.answer _).bind fun reply => ?_
  have hlast : ∀ confirmed, Talk (do
      let lines ← askExample
      return (⟨confirmed, lines⟩ : Confirmation)) :=
    fun _ => talk_askExample.bind fun _ => Talk.pure _
  dsimp only
  split
  · exact (talk_sayLine _).bind fun _ => hlast _
  · exact hlast _

/-! ### Whole interviews -/

/-- What follows the first question, given the line that was read. -/
def askKind (name? : Option String) : DialogueM Classification :=
  match name? with
  | none => throw (.cancelled "end of input")
  | some name =>
    if name.isEmpty then throw (.cancelled "project name is required")
    else do
      let projectType ← projectTypes.ask
      let language ← languages.ask
      return ⟨name, projectType, language⟩

theorem askClassification_eq :
    askClassification = (do
      heading "PHASE 1: Project Classification"
      let name? ← ask "What is the name of your project? "
      askKind name?) := rfl

theorem talk_askKind {name : String} (h : name ≠ "") : Talk (askKind (some name)) := by
  rw [askKind, if_neg (by simpa using h)]
  exact (talk_menu _).bind fun _ => (talk_menu _).bind fun _ => Talk.pure _

/-- All questions after those of the first phase. -/
def askOthers (project : Classification) : DialogueM Answers := do
  let stack ← askTechStack project
  let requirements ← askRequirements
  let workflow ← askWorkflow project.language
  let confirmation ← askConfirmation (recap project stack requirements workflow)
  return ⟨project, stack, requirements, workflow, confirmation⟩

theorem talk_askOthers (project : Classification) : Talk (askOthers project) :=
  (talk_askTechStack _).bind fun _ => talk_askRequirements.bind fun _ =>
    (talk_askWorkflow _).bind fun _ => (talk_askConfirmation _).bind fun _ => Talk.pure _

/-- What an interview does when all questions are answered. -/
def finish (e : Engine) (answers : Answers) : DialogueM Context := do
  let ctx := e.normalize answers.toContext
  sayLine ("\n" ++ ruleLine)
  sayLine ("Interview completed. Collected " ++ ctx.size.repr ++ " context variables.")
  return ctx

theorem talk_finish (e : Engine) (answers : Answers) : Talk (finish e answers) :=
  (talk_sayLine _).bind fun _ => (talk_sayLine _).bind fun _ => Talk.pure _

theorem conduct_eq (e : Engine) :
    conduct e = (do
      sayLine "Starting 5-phase interview for new project setup..."
      let answers ← askClassification >>= askOthers
      finish e answers) := rfl

end Interview

end WorkspaceTemplates

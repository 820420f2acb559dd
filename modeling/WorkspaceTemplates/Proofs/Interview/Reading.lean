/-
  WorkspaceTemplates/Proofs/Interview/Reading.lean
  ================================================
  **What the answers of an interview are, line by line of its script.**

  `Reads script n m post` says of a computation that starts at line `n` of a script:
  if it gives a result, then it has got to some line, and result and line satisfy
  `post`.  There is one rule for each thing that a dialogue does, and one law for each
  phase, which says where the phase stops and what it has found out.  Answers move
  later questions down the script (a menu that asks for a text, a framework that is
  asked about, services), so the place of a question is a function of the script too.

  Nothing is assumed of the room of the output, and lines may fail to be texts: the laws
  are about interviews that come to an end with a context.
-/
import WorkspaceTemplates.Proofs.Interview.Run

namespace WorkspaceTemplates

/-! ### Reading from a line on -/

namespace DialogueM

open Stateful

variable {α β : Type} {script : Script} {n : Nat} {post : β → Nat → Prop}

/-- What is true of a result, and of the line where reading stopped, when there is a result. -/
def Reads (script : Script) (n : Nat) (m : DialogueM α) (post : α → Nat → Prop) : Prop :=
  ∀ d d' x, d.script = script.drop n → m.runOn d = (.ok x, d') →
    ∃ n', d'.script = script.drop n' ∧ post x n'

theorem Reads.pure {x : β} (h : post x n) : Reads script n (pure x) post := by
  intro d d' y hd hrun
  cases hrun
  exact ⟨n, hd, h⟩

theorem Reads.throw (f : Fault) : Reads script n (throw f) post := by
  intro d d' y _ hrun
  cases hrun

theorem Reads.bind {m : DialogueM α} {f : α → DialogueM β} {mid : α → Nat → Prop}
    (hm : Reads script n m mid) (hf : ∀ x n', mid x n' → Reads script n' (f x) post) :
    Reads script n (m >>= f) post := by
  intro d d' y hd hrun
  obtain ⟨x, d₁, hx, hy⟩ := runOn_bind_eq_ok_iff.1 hrun
  obtain ⟨n', hd₁, hmid⟩ := hm d d₁ x hd hx
  exact hf x n' hmid d₁ d' y hd₁ hy

theorem reads_say (text : String) : Reads script n (say text) fun _ n' => n' = n := by
  intro d d' u hd hrun
  exact ⟨n, (script_of_runOn_say hrun).trans hd, rfl⟩

theorem Reads.say_bind {text : String} {f : Unit → DialogueM β}
    (h : Reads script n (f ()) post) : Reads script n (say text >>= f) post := by
  refine (reads_say text).bind ?_
  rintro u n' rfl
  exact h

theorem Reads.sayLine_bind {text : String} {f : Unit → DialogueM β}
    (h : Reads script n (f ()) post) : Reads script n (sayLine text >>= f) post :=
  h.say_bind

theorem reads_sayLines (lines : List String) :
    Reads script n (sayLines lines) fun _ n' => n' = n := by
  induction lines with
  | nil => exact Reads.pure rfl
  | cons line rest ih => exact ih.sayLine_bind

theorem Reads.sayLines_bind {lines : List String} {f : Unit → DialogueM β}
    (h : Reads script n (f ()) post) : Reads script n (sayLines lines >>= f) post := by
  refine (reads_sayLines lines).bind ?_
  rintro u n' rfl
  exact h

theorem Reads.ask_bind {prompt : String} {f : Option String → DialogueM β}
    (h : ∀ line?, line?.getD "" = script.reply n → Reads script (n + 1) (f line?) post) :
    Reads script n (ask prompt >>= f) post := by
  have hask : Reads script n (ask prompt) fun line? n' =>
      line?.getD "" = script.reply n ∧ n' = n + 1 := by
    intro d d' line? hd hrun
    obtain ⟨hline, hd'⟩ := runOn_ask_eq_ok hrun
    rw [hd] at hline hd'
    rw [Script.reply_drop] at hline
    exact ⟨n + 1, by rw [hd', List.tail_drop], hline, rfl⟩
  refine hask.bind ?_
  rintro line? n' ⟨hline, rfl⟩
  exact h line? hline

theorem Reads.answer_bind {prompt : String} {f : String → DialogueM β}
    (h : Reads script (n + 1) (f (script.reply n)) post) :
    Reads script n (answer prompt >>= f) post := by
  have hanswer : Reads script n (answer prompt) fun reply n' =>
      reply = script.reply n ∧ n' = n + 1 := by
    refine Reads.ask_bind fun line? hline => ?_
    exact Reads.pure ⟨hline, rfl⟩
  refine hanswer.bind ?_
  rintro reply n' ⟨rfl, rfl⟩
  exact h

theorem exists_drop_exampleLines (lines : List String) (s : Script) :
    ∃ k, (exampleLines lines s).2 = s.drop k := by
  induction s generalizing lines with
  | nil => exact ⟨0, rfl⟩
  | cons line s ih =>
    have hlater (found : List String) :
        ∃ k, (exampleLines found s).2 = (line :: s).drop k := by
      obtain ⟨k, hk⟩ := ih found
      exact ⟨k + 1, hk⟩
    cases line with
    | none => exact ⟨1, rfl⟩
    | some text =>
      rw [exampleLines]
      split
      · split
        · exact hlater _
        · exact ⟨1, rfl⟩
      · exact hlater _

theorem reads_readExample : Reads script n readExample fun _ _ => True := by
  intro d d' lines hd hrun
  rw [runOn_readExample] at hrun
  obtain ⟨k, hk⟩ := exists_drop_exampleLines [] d.script
  refine ⟨n + k, ?_, trivial⟩
  rw [← (Prod.mk.inj hrun).2, hk, hd, List.drop_drop]

end DialogueM

namespace Interview

open DialogueM

variable {script : Script} {n : Nat}

/-! ### Menus -/

namespace Menu

/-- What a menu finds out from its answer and from the line after it. -/
def value (m : Menu) (reply specified : String) : String :=
  if m.choice reply == "other" then orDefault specified "unknown" else m.choice reply

/-- How many lines a menu takes. -/
def lines (m : Menu) (reply : String) : Nat := if m.choice reply == "other" then 2 else 1

theorem reads_ask (m : Menu) : Reads script n m.ask fun value n' =>
    value = m.value (script.reply n) (script.reply (n + 1)) ∧
      n' = n + m.lines (script.reply n) := by
  refine Reads.sayLine_bind (Reads.sayLines_bind (Reads.answer_bind ?_))
  rw [Menu.value, Menu.lines]
  dsimp only
  split
  · exact Reads.answer_bind (Reads.pure ⟨rfl, rfl⟩)
  · exact Reads.pure ⟨rfl, rfl⟩

end Menu

/-! ### The classification -/

/-- The line that answers which language is used. -/
def languageLine (script : Script) : Nat := 1 + projectTypes.lines (script.reply 1)

/-- The line that answers which frameworks are used. -/
def frameworksLine (script : Script) : Nat :=
  languageLine script + languages.lines (script.reply (languageLine script))

def classified (script : Script) : Classification where
  name := script.reply 0
  projectType := projectTypes.value (script.reply 1) (script.reply 2)
  language :=
    languages.value (script.reply (languageLine script)) (script.reply (languageLine script + 1))

theorem reads_askClassification : Reads script 0 askClassification fun project n' =>
    project = classified script ∧ project.name ≠ "" ∧ n' = frameworksLine script := by
  refine Reads.sayLine_bind (Reads.ask_bind fun line? hline => ?_)
  cases line? with
  | none => exact Reads.throw _
  | some name =>
    rw [Option.getD_some] at hline
    dsimp only
    split
    · exact Reads.throw _
    · rename_i hname
      refine (Menu.reads_ask projectTypes).bind ?_
      rintro projectType n' ⟨rfl, rfl⟩
      refine (Menu.reads_ask languages).bind ?_
      rintro language n' ⟨rfl, rfl⟩
      refine Reads.pure ⟨?_, by simpa using hname, rfl⟩
      rw [hline]
      rfl

/-! ### The technology stack -/

def answeredFrameworks (script : Script) : List String :=
  splitList (script.reply (frameworksLine script))

/-- The frameworks that a question is asked about. -/
def detailed : List String :=
  ["fastapi", "django", "flask", "react", "nextjs", "vue", "express", "nestjs"]

/-- How many lines the question about the first framework takes. -/
def firstLines (frameworks : List String) : Nat :=
  if frameworks.head?.any fun first => detailed.contains (Text.lower first) then 1 else 0

/-- Whether a type of project has services. -/
def hasServices (projectType : String) : Bool :=
  projectType == "microservices" || projectType == "monorepo"

/-- The line that answers which services there are, if that is asked. -/
def servicesLine (script : Script) : Nat :=
  frameworksLine script + 1 + firstLines (answeredFrameworks script)

/-- The line that answers which ports are used. -/
def portsLine (script : Script) : Nat :=
  servicesLine script + if hasServices (classified script).projectType then 1 else 0

/-- The ports of a project with some frameworks, given the answer to the question. -/
def portsFor (frameworks : List String) (reply : String) : List String :=
  if ((ports? reply).getD []).isEmpty then (frameworks.head?.bind defaultPort?).toList
  else (ports? reply).getD []

theorem contains_detailed (framework : String) :
    detailed.contains framework =
      (["fastapi", "django", "flask"].contains framework ||
        ["react", "nextjs", "vue"].contains framework ||
        ["express", "nestjs"].contains framework) := by
  rw [← List.contains_append, ← List.contains_append]
  rfl

theorem reads_askFramework (framework : String) :
    Reads script n (askFramework framework) fun _ n' =>
      n' = n + if detailed.contains framework then 1 else 0 := by
  rw [askFramework, contains_detailed]
  split
  · rename_i hpython
    rw [hpython]
    exact Reads.sayLine_bind (Reads.answer_bind (Reads.pure rfl))
  · rename_i hpython
    rw [Bool.eq_false_iff.2 hpython]
    split
    · rename_i hbrowser
      rw [hbrowser]
      exact Reads.sayLine_bind (Reads.answer_bind (Reads.pure rfl))
    · rename_i hbrowser
      rw [Bool.eq_false_iff.2 hbrowser]
      split
      · rename_i hserver
        rw [hserver]
        exact Reads.sayLine_bind (Reads.answer_bind (Reads.pure rfl))
      · rename_i hserver
        rw [Bool.eq_false_iff.2 hserver]
        exact Reads.pure rfl

theorem reads_askFirst (frameworks : List String) :
    Reads script n (askFirst frameworks) fun _ n' => n' = n + firstLines frameworks := by
  rw [askFirst, firstLines]
  cases frameworks.head? with
  | none => exact Reads.pure rfl
  | some first => exact reads_askFramework _

theorem reads_askServices (projectType : String) :
    Reads script n (askServices projectType) fun services? n' =>
      services? = (if hasServices projectType then some (splitList (script.reply n)) else none) ∧
        n' = n + if hasServices projectType then 1 else 0 := by
  rw [askServices, hasServices]
  split
  · exact Reads.sayLine_bind (Reads.answer_bind (Reads.pure ⟨rfl, rfl⟩))
  · exact Reads.pure ⟨rfl, rfl⟩

theorem reads_checkPorts (reply : String) :
    Reads script n (checkPorts reply) fun given n' =>
      given = (ports? reply).getD [] ∧ n' = n := by
  rw [checkPorts]
  split
  · rename_i ports hports
    exact Reads.pure ⟨by rw [hports, Option.getD_some], rfl⟩
  · rename_i hports
    exact Reads.sayLine_bind (Reads.pure ⟨by rw [hports, Option.getD_none], rfl⟩)

theorem reads_askPorts (frameworks : List String) :
    Reads script n (askPorts frameworks) fun ports n' =>
      ports = portsFor frameworks (script.reply n) ∧ n' = n + 1 := by
  rw [askPorts_eq]
  refine Reads.sayLine_bind (Reads.answer_bind ((reads_checkPorts _).bind ?_))
  rintro given n' ⟨rfl, rfl⟩
  exact Reads.pure ⟨rfl, rfl⟩

/-- What is known of the technology stack: everything but the details of the first framework. -/
structure StackRead (script : Script) (stack : TechStack) : Prop where
  frameworks : stack.frameworks = answeredFrameworks script
  services : stack.services? =
    if hasServices (classified script).projectType then
      some (splitList (script.reply (servicesLine script)))
    else none
  ports : stack.ports = portsFor (answeredFrameworks script) (script.reply (portsLine script))
  architecture : stack.architecture =
    orDefault (script.reply (portsLine script + 1)) (classified script).projectType

theorem reads_askTechStack :
    Reads script (frameworksLine script) (askTechStack (classified script)) fun stack n' =>
      StackRead script stack ∧ n' = portsLine script + 2 := by
  rw [askTechStack_eq]
  refine Reads.sayLine_bind (Reads.sayLine_bind (Reads.answer_bind ?_))
  refine (reads_askFirst _).bind ?_
  rintro extras n' rfl
  refine (reads_askServices _).bind ?_
  rintro services n' ⟨hservices, rfl⟩
  refine (reads_askPorts _).bind ?_
  rintro ports n' ⟨hports, rfl⟩
  refine Reads.sayLine_bind (Reads.sayLine_bind (Reads.answer_bind (Reads.pure ⟨?_, rfl⟩)))
  exact ⟨rfl, hservices, hports, rfl⟩

/-! ### Requirements, workflow, confirmation -/

/-- The requirements that are answered from some line on. -/
def requirementsAt (script : Script) (n : Nat) : Requirements :=
  let next := n + deployments.lines (script.reply n)
  ⟨deployments.value (script.reply n) (script.reply (n + 1)),
    orDefault (script.reply next) "standard", splitList (script.reply (next + 1)),
    script.reply (next + 2)⟩

theorem reads_askRequirements : Reads script n askRequirements fun requirements n' =>
    requirements = requirementsAt script n ∧ n' = n + deployments.lines (script.reply n) + 3 := by
  refine Reads.sayLine_bind ((Menu.reads_ask deployments).bind ?_)
  rintro deployment n' ⟨rfl, rfl⟩
  exact Reads.sayLine_bind (Reads.answer_bind (Reads.sayLine_bind (Reads.answer_bind
    (Reads.sayLine_bind (Reads.answer_bind (Reads.pure ⟨rfl, rfl⟩))))))

/-- The workflow that is answered from some line on, for a language. -/
def workflowAt (script : Script) (language : String) (n : Nat) : Workflow where
  standards := orDefault (script.reply n) (defaultStandard language)
  organization := orDefault (script.reply (n + 1)) "standard"
  testing := orDefault (script.reply (n + 2)) (defaultTesting language)

theorem reads_askWorkflow (language : String) :
    Reads script n (askWorkflow language) fun workflow n' =>
      workflow = workflowAt script language n ∧ n' = n + 3 :=
  Reads.sayLine_bind (Reads.sayLine_bind (Reads.sayLine_bind (Reads.answer_bind
    (Reads.sayLine_bind (Reads.answer_bind (Reads.sayLine_bind (Reads.answer_bind
      (Reads.pure ⟨rfl, rfl⟩))))))))

theorem reads_askExample : Reads script n askExample fun _ _ => True := by
  refine Reads.sayLine_bind (Reads.answer_bind ?_)
  split
  · exact reads_readExample.sayLine_bind
  · exact Reads.pure trivial

theorem reads_askConfirmation (shown : List String) :
    Reads script n (askConfirmation shown) fun _ _ => True := by
  refine Reads.sayLine_bind (Reads.sayLine_bind (Reads.sayLines_bind (Reads.sayLine_bind
    (Reads.answer_bind ?_))))
  have hlast (confirmed : Bool) : Reads script (n + 1) (do
      let lines ← askExample
      return (⟨confirmed, lines⟩ : Confirmation)) fun _ _ => True :=
    reads_askExample.bind fun _ _ _ => Reads.pure trivial
  dsimp only
  split
  · exact (hlast _).sayLine_bind
  · exact hlast _

/-! ### Whole interviews -/

/-- Answers that are those of a script. -/
structure AnswersRead (script : Script) (answers : Answers) : Prop where
  project : answers.project = classified script
  name : (classified script).name ≠ ""
  stack : StackRead script answers.stack
  requirements : answers.requirements = requirementsAt script (portsLine script + 2)
  workflow : ∃ n, answers.workflow = workflowAt script (classified script).language n

theorem reads_askAll : Reads script 0 askAll fun answers _ => AnswersRead script answers := by
  refine reads_askClassification.bind ?_
  rintro project n' ⟨rfl, hname, rfl⟩
  refine reads_askTechStack.bind ?_
  rintro stack n' ⟨hstack, rfl⟩
  refine reads_askRequirements.bind ?_
  rintro requirements n' ⟨hrequirements, rfl⟩
  refine (reads_askWorkflow _).bind ?_
  rintro workflow n' ⟨hworkflow, rfl⟩
  refine (reads_askConfirmation _).bind fun confirmation n' _ => Reads.pure ?_
  exact ⟨rfl, hname, hstack, hrequirements, _, hworkflow⟩

/-- The context of an interview is the completed context of the answers of its script. -/
theorem exists_answers {e : Engine} {room : Option Nat} {ctx : Context} {d : Dialogue}
    (h : run e script room = (.ok ctx, d)) :
    ∃ answers, AnswersRead script answers ∧ ctx = e.normalize answers.toContext := by
  have hreads : Reads script 0 (conduct e) fun ctx _ =>
      ∃ answers, AnswersRead script answers ∧ ctx = e.normalize answers.toContext := by
    refine Reads.sayLine_bind (reads_askAll.bind fun answers n' hanswers => ?_)
    exact Reads.sayLine_bind (Reads.sayLine_bind (Reads.pure ⟨answers, hanswers, rfl⟩))
  obtain ⟨n', -, hctx⟩ := hreads (Dialogue.start script room) d ctx rfl h
  exact hctx

/-- An interview whose context passes a test is one that gives a context. -/
theorem exists_run_of_any {e : Engine} {room : Option Nat} {test : Context → Bool}
    (h : (run e script room).1.toOption.any test = true) :
    ∃ ctx d, run e script room = (.ok ctx, d) ∧ test ctx = true := by
  obtain ⟨ctx, hok, htest⟩ := (Option.any_eq_true _ _).1 h
  cases hrun : run e script room with
  | mk result d =>
    rw [hrun] at hok
    cases result with
    | error f => cases hok
    | ok ctx' =>
      cases hok
      exact ⟨ctx, d, rfl, htest⟩

end Interview

end WorkspaceTemplates

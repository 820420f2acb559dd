/-
  WorkspaceTemplates/Proofs/Interview/Run.lean
  ============================================
  **Running dialogues.**

  There is one law for each thing that a dialogue does.  What a line of a script
  answers is its `reply`, which is empty past the end of the script: a question at the
  end of input is answered by nothing, as by a blank line.
-/
import WorkspaceTemplates.Interview
import WorkspaceTemplates.Proofs.Text.Trim

namespace WorkspaceTemplates

namespace DialogueM

open Stateful

/-! ### What a dialogue does -/

theorem runOn_say (text : String) (d : Dialogue) :
    (say text).runOn d =
      (if (d.write (utf8Bytes text)).1 then .ok () else .error (.file .brokenPipe),
        (d.write (utf8Bytes text)).2) := by
  rw [say, runOn_bind_of_ok (runOn_get d)]
  cases h : d.write (utf8Bytes text) with
  | mk complete d' => cases complete <;> rfl

theorem runOn_readLine (d : Dialogue) :
    readLine.runOn d =
      match d.script with
      | [] => (.ok none, d)
      | some line :: rest => (.ok (some (Text.trim line)), { d with script := rest })
      | none :: rest => (.error (.file .invalidData), { d with script := rest }) := by
  rw [readLine, runOn_bind_of_ok (runOn_get d)]
  cases d.script with
  | nil => rfl
  | cons line rest => cases line <;> rfl

theorem runOn_readExample (d : Dialogue) :
    readExample.runOn d =
      ((exampleLines [] d.script).1, { d with script := (exampleLines [] d.script).2 }) := by
  rw [readExample, runOn_bind_of_ok (runOn_get d)]
  cases h : exampleLines [] d.script with
  | mk r rest => cases r <;> rfl

/-- Writing leaves the script alone. -/
theorem script_write (bytes : List UInt8) (d : Dialogue) : (d.write bytes).2.script = d.script := by
  rw [Dialogue.write]
  split <;> rfl

end DialogueM

/-! ### Replies -/

namespace Script

/-- What line `n` of a script answers: the line without the blanks around it, and nothing past the
end of the script. -/
def reply (s : Script) (n : Nat) : String :=
  match s[n]? with
  | some (some line) => Text.trim line
  | _ => ""

@[simp] theorem reply_nil (n : Nat) : reply [] n = "" := rfl

@[simp] theorem reply_cons_zero (line : String) (s : Script) :
    reply (some line :: s) 0 = Text.trim line := rfl

@[simp] theorem reply_cons_succ (line : Option String) (s : Script) (n : Nat) :
    reply (line :: s) (n + 1) = reply s n := by
  rw [reply, reply, List.getElem?_cons_succ]

theorem reply_tail (s : Script) (n : Nat) : reply s.tail n = reply s (n + 1) := by
  cases s with
  | nil => rfl
  | cons line s => rw [reply_cons_succ, List.tail_cons]

theorem reply_drop (s : Script) (k n : Nat) : reply (s.drop k) n = reply s (k + n) := by
  rw [reply, reply, List.getElem?_drop]

theorem trim_reply (s : Script) (n : Nat) : Text.trim (reply s n) = reply s n := by
  rw [reply]
  split
  · exact Text.trim_trim _
  · rfl

end Script

namespace DialogueM

open Stateful

theorem script_of_runOn_say {text : String} {d d' : Dialogue} {u : Unit}
    (h : (say text).runOn d = (.ok u, d')) : d'.script = d.script := by
  rw [runOn_say] at h
  rw [← (Prod.mk.inj h).2, script_write]

/-- A question that gets a line gets the next one of the script. -/
theorem runOn_ask_eq_ok {prompt : String} {line? : Option String} {d d' : Dialogue}
    (h : (ask prompt).runOn d = (.ok line?, d')) :
    line?.getD "" = d.script.reply 0 ∧ d'.script = d.script.tail := by
  rw [ask, runOn_bind_eq_ok_iff] at h
  obtain ⟨u, d₁, hsay, hread⟩ := h
  have hscript := script_of_runOn_say hsay
  rw [runOn_readLine, hscript] at hread
  cases hs : d.script with
  | nil =>
    rw [hs] at hread
    cases hread
    exact ⟨rfl, hscript.trans hs⟩
  | cons line rest =>
    rw [hs] at hread
    cases line with
    | none => cases hread
    | some line =>
      cases hread
      exact ⟨rfl, rfl⟩

end DialogueM

/-! ### Questions that depend on answers -/

namespace Interview

open DialogueM Stateful

/-- Ask about the first framework, if there is one. -/
def askFirst (frameworks : List String) : DialogueM (List String) :=
  match frameworks.head? with
  | some first => askFramework (Text.lower first)
  | none => pure []

theorem askTechStack_eq (project : Classification) :
    askTechStack project = (do
      heading "PHASE 2: Technology Stack & Architecture"
      sayLine "\nWhat framework(s) are you using? (comma-separated, or press Enter to skip)"
      let given ← answer "Frameworks: "
      let extras ← askFirst (splitList given)
      let services ← askServices project.projectType
      let ports ← askPorts (splitList given)
      sayLine "\nWhat is the architecture pattern? (press Enter for default)"
      sayLine "Options: microservices, monolith, serverless, event-driven, etc."
      let architecture ← answer "Architecture: "
      return ⟨splitList given, extras, services, ports,
        orDefault architecture project.projectType⟩) := by
  rw [askTechStack]
  congr 1
  funext _
  congr 1
  funext _
  congr 1
  funext given
  dsimp only
  rw [askFirst]
  cases (splitList given).head? with
  | none => rfl
  | some first => rfl

/-- The ports of an answer, with a warning if it does not list port numbers. -/
def checkPorts (given : String) : DialogueM (List String) :=
  match ports? given with
  | some ports => pure ports
  | none => do
    sayLine "Warning: Invalid port numbers, skipping."
    return []

theorem askPorts_eq (frameworks : List String) :
    askPorts frameworks = (do
      sayLine "\nWhat ports will your services use? (comma-separated, or press Enter to skip)"
      let answered ← answer "Ports: "
      let given ← checkPorts answered
      return if given.isEmpty then (frameworks.head?.bind defaultPort?).toList else given) := by
  rw [askPorts]
  congr 1
  funext _
  congr 1
  funext answered
  dsimp only
  rw [checkPorts]
  cases ports? answered with
  | none => rw [bind_assoc]
  | some ports => rfl

end Interview

end WorkspaceTemplates

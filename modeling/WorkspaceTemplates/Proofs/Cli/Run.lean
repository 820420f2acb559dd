/-
  WorkspaceTemplates/Proofs/Cli/Run.lean
  ======================================
  **Running commands.**

  Loading a file looks at the disk and changes nothing
  (`runOn_loadTemplate`, `runOn_loadContext`), and the code of a run says how the
  command that the arguments ask for ended (`code_run_eq_zero_iff`).
-/
import WorkspaceTemplates.Cli.Run
import WorkspaceTemplates.Proofs.Files.Run

namespace WorkspaceTemplates.Cli

namespace CliM

open Stateful

variable {α : Type}

@[simp] theorem runOn_fail (message : String) (c : Console) :
    (fail message : CliM α).runOn c = (.error (.message message), c) := rfl

@[simp] theorem runOn_print (text : String) (c : Console) :
    (print text).runOn c = (.ok (), { c with printed := c.printed ++ text }) := rfl

theorem runOn_onLook (look : Disk → Except Fault α) (c : Console) :
    (onLook look).runOn c = ((look c.disk).mapError fun f => .message f.message, c) := by
  rw [onLook, onDisk, runOn_bind, runOn_get]
  simp only [DiskM.runOn_demand]
  rw [runOn_bind, runOn_set]
  cases look c.disk <;> rfl

theorem runOn_explain (text : String) (m : CliM α) (c : Console) :
    (explain text m).runOn c =
      ((m.runOn c).1.mapError (Failure.explained text), (m.runOn c).2) := by
  rw [explain, runOn_tryCatch]
  cases m.runOn c with
  | mk r c' => cases r <;> rfl

end CliM

open CliM Stateful

/-! ### Loading -/

theorem runOn_loadTemplate (path : String) (c : Console) :
    (loadTemplate path).runOn c = ((Template.load c.disk path).mapError fun f =>
      .message ("failed to read template " ++ path ++ ": " ++ f.message), c) := by
  rw [loadTemplate, runOn_explain, runOn_onLook]
  cases Template.load c.disk path <;> rfl

theorem runOn_loadContext (path : String) (c : Console) :
    (loadContext path).runOn c = ((Context.load c.disk path).mapError fun f =>
      .message ("failed to load context " ++ path ++ ": " ++ f.message), c) := by
  rw [loadContext, runOn_explain, runOn_onLook]
  cases Context.load c.disk path <;> rfl

/-! ### Runs -/

/-- The code 0 says that the command did what was asked. -/
theorem code_run_eq_zero_iff {args : List String} {w : World} {i : Invocation}
    (h : parse args w.envRoot? = .ok i) :
    (run args w).code = 0 ↔ ((perform w i).runOn ⟨w.disk, "", []⟩).1 = .ok () := by
  simp only [run, h]
  cases (perform w i).runOn ⟨w.disk, "", []⟩ with
  | mk r c =>
    cases r with
    | ok x => simp
    | error f => cases f <;> simp

end WorkspaceTemplates.Cli

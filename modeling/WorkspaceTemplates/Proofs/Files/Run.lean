/-
  WorkspaceTemplates/Proofs/Files/Run.lean
  ========================================
  **Running what changes a disk.**

  What the steps of a computation on a disk give, and the disks that they leave
  behind.
-/
import WorkspaceTemplates.Files.Disk

namespace WorkspaceTemplates.DiskM

open Stateful

variable {α : Type}

@[simp] theorem runOn_fail (e : FileError) (d : Disk) :
    (fail e : DiskM α).runOn d = (.error (.file e), d) := rfl

@[simp] theorem runOn_changeTree (change : Tree → Tree) (d : Disk) :
    (changeTree change).runOn d = (.ok (), { d with tree := change d.tree }) := rfl

@[simp] theorem runOn_ask (look : Disk → α) (d : Disk) : (ask look).runOn d = (.ok (look d), d) :=
  rfl

theorem runOn_demand (look : Disk → Except Fault α) (d : Disk) :
    (demand look).runOn d = (look d, d) := by
  rw [demand, runOn_bind, runOn_get]
  cases h : look d <;> simp only [h, runOn_pure, runOn_throw]

end WorkspaceTemplates.DiskM

/-
  WorkspaceTemplates/Proofs/Generate/Success.lean
  ===============================================
  **When all files of a workspace can be written.**

  The files before one put nothing in its way: they stand apart from it, and where
  they make directories above it these are directories it needs itself
  (`Clear.of_progress`).  So what the first disk allows for each file is enough for
  all of them, one after another (`exists_writeAll`).
-/
import WorkspaceTemplates.Proofs.Files.Success
import WorkspaceTemplates.Proofs.Generate.Writing

namespace WorkspaceTemplates

open Disk (Clear Passable Rooted)
open Stateful (runOn_bind)
open WorkspaceTemplates.Path (Ordinary segments)

section WriteGenerated

variable {d : Disk} {root p : String} {base : Location}

theorem DiskM.exists_writeGenerated (text : String) (overwrite : Bool) (hroot : d.Rooted root base)
    (hplaced : d.WellPlaced) (hp : Ordinary p) (htakes : d.Takes (Path.join root p))
    (hclear : Clear d.tree base (segments p)) :
    ∃ outcome d', (writeGenerated (Path.join root p) text overwrite).runOn d =
      (.ok outcome, d') := by
  rw [writeGenerated, runOn_bind, runOn_ask]
  simp only
  split
  · exact ⟨_, _, rfl⟩
  · obtain ⟨d', hrun⟩ := exists_writeAtomically text.toUTF8 hroot hplaced hp.isName htakes hclear
    rw [runOn_bind, hrun]
    exact ⟨_, _, rfl⟩

end WriteGenerated

namespace Generate

section Writing

variable {d d' : Disk} {root : String} {base : Location} {overwrite : Bool}
  {file : PlannedFile} {files : List PlannedFile}

/-- A file that was written is not in the way of files apart from it. -/
theorem Clear.of_progress {p : String} (h : Progress base overwrite [file] [file] d d')
    (hapart : Apart p file.label) (hclear : Clear d.tree base (segments p)) :
    Clear d'.tree base (segments p) := by
  refine ⟨?_, by rw [h.same (List.Subset.refl _) (by simpa using hapart)]; exact hclear.free⟩
  intro xs hxs content
  have hother : ∀ f ∈ [file], base ++ xs ≠ base ++ segments f.label := by
    intro f hf heq
    rw [List.mem_singleton.1 hf] at heq
    rw [List.append_cancel_left heq] at hxs
    exact hapart.2 (hxs.trans (List.dropLast_prefix _))
  rcases h.others _ hother with hsame | ⟨-, hdir, -⟩
  · rw [hsame]
    exact hclear.above xs hxs content
  · rw [hdir]
    exact nofun

/-- **Files that stand apart are all written** when nothing is in the way of any of them. -/
theorem exists_writeAll (overwrite : Bool) (hroot : d.Rooted root base) (hplaced : d.WellPlaced)
    (hlaid : Laid root files) (htakes : ∀ f ∈ files, d.Takes f.path)
    (hclear : ∀ f ∈ files, Clear d.tree base (segments f.label)) :
    ∃ entries d', (writeAll overwrite files).runOn d = (.ok entries, d') := by
  induction files generalizing d with
  | nil => exact ⟨[], d, rfl⟩
  | cons file files ih =>
    rw [List.forall_mem_cons] at htakes hclear
    have hordinary := hlaid.ordinary file List.mem_cons_self
    have hpath := hlaid.path file List.mem_cons_self
    obtain ⟨outcome, d₁, hwrite⟩ := DiskM.exists_writeGenerated file.text overwrite hroot
      hplaced hordinary (hpath ▸ htakes.1) hclear.1
    have hfile : (writeFile overwrite file).runOn d =
        (.ok ⟨file.label, outcome, file.missing⟩, d₁) := by
      rw [writeFile, hpath, Stateful.runOn_bind, hwrite]
      rfl
    rcases progress_of_writeFile hroot.leads hordinary hpath hfile with
      ⟨-, hfirst⟩ | ⟨⟨e, he⟩, -⟩
    case inr => cases he
    have hkeeps := hfirst.keeps
    obtain ⟨entries, d', hrest⟩ := ih (hroot.keeps hkeeps) (hkeeps.wellPlaced hplaced) hlaid.tail
      (fun f hf => hkeeps.takes (htakes.2 f hf)) (by
        intro f hf
        have hapart := (List.rel_of_pairwise_cons hlaid.apart hf).symm
        exact Clear.of_progress hfirst hapart (hclear.2 f hf))
    refine ⟨⟨file.label, outcome, file.missing⟩ :: entries, d', ?_⟩
    rw [writeAll, Stateful.runOn_bind, hfile]
    simp only [Stateful.runOn_bind, hrest]
    rfl

end Writing

end Generate

end WorkspaceTemplates

/-
  WorkspaceTemplates/Proofs/Files/Again.lean
  ==========================================
  **Writing a file again.**

  A file that was written once can be written again on every disk that keeps the
  directories and has a file in its place: the directories above it need not be made,
  and the places for the draft and for the file are found as before.  If it holds
  the same bytes already, nothing changes (`SettledAt.again`).
-/
import WorkspaceTemplates.Proofs.Files.Success

namespace WorkspaceTemplates

/-! ### Disks that hold the same -/

namespace Disk

/-- The same stands at every location of two disks. -/
structure Same (d d' : Disk) : Prop where
  workDir : d'.workDir = d.workDir
  kinds : ∀ loc, d'.tree.kindAt? loc = d.tree.kindAt? loc
  raw : ∀ loc, d'.tree.rawAt loc = d.tree.rawAt loc

section Same

variable {d d' d'' : Disk} {path : String}

theorem Same.refl (d : Disk) : Same d d := ⟨rfl, fun _ => rfl, fun _ => rfl⟩

theorem Same.trans (h : Same d d') (h' : Same d' d'') : Same d d'' :=
  ⟨h'.workDir.trans h.workDir, fun loc => (h'.kinds loc).trans (h.kinds loc),
    fun loc => (h'.raw loc).trans (h.raw loc)⟩

theorem Same.keeps (h : Same d d') : Keeps d d' where
  workDir := h.workDir
  dir loc hloc := by rw [h.kinds, hloc]

theorem Same.exists? (h : Same d d') (hthere : d.exists? path = true) :
    d'.exists? path = true := by
  obtain ⟨loc, hloc, hkind⟩ := exists?_eq_true_iff.1 hthere
  exact exists?_eq_true_iff.2 ⟨loc, h.keeps.locate hloc, by rw [h.kinds]; exact hkind⟩

end Same

/-! ### What is found again -/

section Keeps

variable {d d' : Disk} {path name : String} {place : Location}

theorem Keeps.isDir (h : Keeps d d') (hdir : d.isDir path = true) : d'.isDir path = true := by
  obtain ⟨loc, hloc, hkind⟩ := isDir_eq_true_iff.1 hdir
  exact isDir_eq_true_iff.2 ⟨loc, h.locate hloc, h.dir loc hkind⟩

theorem Keeps.slot (h : Keeps d d') {found : Location × Option String}
    (hslot : d.slot path = .ok found) : d'.slot path = .ok found := by
  rw [Disk.slot] at hslot ⊢
  split at hslot
  · cases hslot
  · split at hslot
    · exact hslot
    · split at hslot
      · cases hslot
      · rename_i hfollow
        rw [← h.origin] at hfollow
        simp only [h.follow hfollow]
        exact hslot

theorem Keeps.holder (h : Keeps d d') {es : List (String × Tree)}
    (hholder : d.holder path = .ok (place, es)) :
    ∃ es', d'.holder path = .ok (place, es') := by
  obtain ⟨os, hes⟩ := DiskM.holder_spec hholder
  have hdir := Tree.kindAt?_eq_dir_iff.2 ⟨es, os, hes⟩
  obtain ⟨es', os', hes'⟩ := Tree.kindAt?_eq_dir_iff.1 (h.dir place hdir)
  refine ⟨es', ?_⟩
  rw [Disk.holder] at hholder ⊢
  simp only [h.absolute] at hholder ⊢
  split at hholder
  · cases hholder
  · rename_i hroom
    rw [if_neg hroom]
    split at hholder
    · cases hholder
    · rename_i hloc
      split at hholder
      · cases hholder
        simp only [h.locate hloc, hes']
      · cases hholder
      · cases hholder

theorem Keeps.target (h : Keeps d d') (htarget : d.target path = .ok (place, name))
    (hfree : d'.tree.kindAt? (place ++ [name]) ≠ some .dir) :
    d'.target path = .ok (place, name) := by
  have hslot := (DiskM.target_spec htarget).1
  rw [Disk.target, hslot] at htarget
  rw [Disk.target, h.slot hslot]
  simp only at htarget ⊢
  split at htarget
  · cases htarget
  · rename_i hslash
    rw [if_neg hslash, if_neg]
    intro hany
    obtain ⟨u, hu, hdir⟩ := (Option.any_eq_true _ _).1 hany
    cases u with
    | file content => cases hdir
    | dir es os => exact hfree (Tree.kindAt?_eq_dir_iff.2 ⟨es, os, hu⟩)

end Keeps

end Disk

/-! ### Directories that have been made -/

namespace DiskM

open Disk (Keeps Same)
open Stateful

section MakeNested

variable {d d' : Disk} {path : String} {above : List String}

/-- A directory that was made is there. -/
theorem isDir_of_makeDir (hend : (Path.segments path).getLast? ≠ some "")
    (h : (makeDir path).runOn d = (.ok (), d')) : d'.isDir path = true := by
  rcases runOn_makeDir path d with ⟨place, name, hslot, hvacant, hrun⟩ | ⟨f, hrun⟩
  · rw [hrun] at h
    cases h
    obtain ⟨-, -, hdir, -⟩ := Disk.slot_spec hslot hend
    have hkeeps := (Disk.Grown.put hslot hend hvacant).keeps
    refine Disk.isDir_eq_true_iff.2 ⟨_, hkeeps.locate (Disk.locate_of_slot hslot hend), ?_⟩
    rw [Tree.kindAt?_put hdir (by rw [hvacant]; exact nofun) Tree.kindAt?_emptyDir_cons,
      if_pos rfl]
    rfl
  · rw [hrun] at h
    cases h

theorem isDir_of_unlessDir {f : Fault} (h : (unlessDir path f).runOn d = (.ok (), d')) :
    d'.isDir path = true := by
  rw [runOn_unlessDir, Prod.mk.injEq] at h
  obtain ⟨hr, rfl⟩ := h
  split at hr
  · assumption
  · cases hr

/-- The first of some directories is there when all of them could be made. -/
theorem isDir_of_makeNested (hend : (Path.segments path).getLast? ≠ some "")
    (h : (makeNested (path :: above)).runOn d = (.ok (), d')) : d'.isDir path = true := by
  rw [makeNested, runOn_tryCatch] at h
  rcases hmake : (makeDir path).runOn d with ⟨f | _, d₁⟩
  · rw [hmake] at h
    simp only at h
    split at h
    · obtain ⟨_, d₂, -, hretry⟩ := runOn_bind_eq_ok_iff.1 h
      rw [runOn_tryCatch] at hretry
      rcases hmake' : (makeDir path).runOn d₂ with ⟨f' | _, d₃⟩
      · rw [hmake'] at hretry
        exact isDir_of_unlessDir hretry
      · rw [hmake'] at hretry
        cases hretry
        exact isDir_of_makeDir hend hmake'
    · exact isDir_of_unlessDir h
  · rw [hmake] at h
    cases h
    exact isDir_of_makeDir hend hmake

/-- The directories above a path need not be made a second time. -/
theorem makeNested_again {d₁ : Disk}
    (h : (makeNested (Path.ancestors path).tail).runOn d = (.ok (), d₁)) (hkeeps : Keeps d₁ d') :
    (makeNested (Path.ancestors path).tail).runOn d' = (.ok (), d') := by
  cases htail : (Path.ancestors path).tail with
  | nil => rfl
  | cons a above =>
    rw [htail] at h
    have hmem : a ∈ Path.ancestors path := List.mem_of_mem_tail (htail ▸ List.mem_cons_self)
    have hdir := hkeeps.isDir
      (isDir_of_makeNested (Path.getLast?_segments_of_mem_ancestors hmem) h)
    obtain ⟨loc, hloc, hkind⟩ := Disk.isDir_eq_true_iff.1 hdir
    obtain ⟨href, hfollow⟩ := Disk.locate_eq_ok_iff.1 hloc
    obtain ⟨pre, s, post, -, hs, hasegs, -⟩ := Path.segments_of_mem_namedEnds
      (List.append_nil (Path.segments path)).symm (List.mem_reverse.1 hmem)
    exact makeNested_of_dir href hasegs hs (hasegs ▸ hfollow) hkind

end MakeNested

/-! ### Files that have been written -/

/-- A file stands on a disk as it was written on one whose directories are kept. -/
def SettledAt (d : Disk) (path : String) (content : ByteArray) : Prop :=
  ∃ d₀ d₁ loc, (writeAtomically path content).runOn d₀ = (.ok (), d₁) ∧
    d₁.locate path = .ok loc ∧ Keeps d₁ d ∧ d.tree.kindAt? loc = some (.file content)

section Settled

variable {d d' : Disk} {path : String} {content : ByteArray}

theorem SettledAt.keeps (h : SettledAt d path content) (hkeeps : Keeps d d')
    (hsame : ∀ loc, d.locate path = .ok loc → d'.tree.kindAt? loc = d.tree.kindAt? loc) :
    SettledAt d' path content := by
  obtain ⟨d₀, d₁, loc, hrun, hloc, hkept, hfile⟩ := h
  exact ⟨d₀, d₁, loc, hrun, hloc, hkept.trans hkeeps, by rw [hsame loc (hkept.locate hloc), hfile]⟩

theorem settledAt_of_writeAtomically {loc : Location}
    (h : (writeAtomically path content).runOn d = (.ok (), d')) (hloc : d'.locate path = .ok loc)
    (hfile : d'.tree.kindAt? loc = some (.file content)) : SettledAt d' path content :=
  ⟨d, d', loc, h, hloc, .refl d', hfile⟩

/-- **A file that stands as it was written can be written again**, and that changes nothing. -/
theorem SettledAt.again (h : SettledAt d path content) :
    ∃ d', (writeAtomically path content).runOn d = (.ok (), d') ∧ Same d d' := by
  obtain ⟨d₀, d₁, loc, hrun, hloc, hkeeps, hfile⟩ := h
  obtain ⟨dm, place, es, goal, name, hmade, hholder, htarget, hd₁⟩ :=
    exists_of_writeAtomically hrun
  obtain ⟨os, hfind⟩ := holder_spec hholder
  obtain ⟨hmloc, hmfree, hmkinds⟩ := kindAt?_moved hfind htarget
  -- the disk on which the file was put into its place, and the one on which it is written again
  have hmoved : Keeps dm d := by
    refine Keeps.trans ⟨by rw [hd₁], ?_⟩ hkeeps
    intro l hl
    rw [hd₁]
    exact (hmkinds l).trans (by rw [if_neg (by rintro rfl; exact hmfree hl), hl])
  have hgoal : loc = goal ++ [name] := by
    have hsame := hmoved.locate hmloc
    rw [hkeeps.locate hloc] at hsame
    exact Except.ok.inj hsame
  rw [hgoal] at hfile
  obtain ⟨es', hholder'⟩ := hmoved.holder hholder
  obtain ⟨os', hfind'⟩ := holder_spec hholder'
  have htarget' : (drafted d place es' content).target path = .ok (goal, name) := by
    refine (((drafted_keeps hfind content).trans hmoved).trans
      (keeps_drafted hfind' content)).target htarget ?_
    rw [kindAt?_drafted_of_there hfind' content (by rw [hfile]; exact nofun), hfile]
    exact nofun
  have hraw := leavesRaw_writeAtomically path content d
  rw [runOn_writeAtomically (makeNested_again hmade hmoved), hholder'] at hraw ⊢
  simp only [htarget'] at hraw ⊢
  refine ⟨_, rfl, rfl, ?_, hraw⟩
  intro l
  refine ((kindAt?_moved hfind' htarget').2.2 l).trans ?_
  split
  · rename_i heq
    rw [heq, hfile]
  · rfl

end Settled

end DiskM

end WorkspaceTemplates

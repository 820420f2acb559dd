/-
  WorkspaceTemplates/Proofs/Files/Attempt.lean
  ============================================
  **Writing a file, whether it succeeds or not.**

  A file that is written stands at the location of its path; one that cannot be
  written leaves no trace of itself.  In both cases only directories that were
  missing above that location are added (`Placed`, `Prepared`), and what fails, fails
  because of the files.
-/
import WorkspaceTemplates.Proofs.Files.Leads
import WorkspaceTemplates.Proofs.Files.Raw

namespace WorkspaceTemplates

/-! ### Faults of the files -/

namespace DiskM

open Stateful

/-- A computation that fails for no other reason than the files. -/
def FailsByFile {α : Type} (m : DiskM α) : Prop :=
  ∀ d f d', m.runOn d = (.error f, d') → ∃ e, f = .file e

namespace FailsByFile

variable {α β : Type}

theorem pure (x : α) : FailsByFile (Pure.pure x : DiskM α) := by
  intro d f d' h
  cases h

theorem fail (e : FileError) : FailsByFile (fail e : DiskM α) := by
  intro d f d' h
  cases h
  exact ⟨e, rfl⟩

theorem bind {m : DiskM α} {g : α → DiskM β} (hm : FailsByFile m)
    (hg : ∀ x, FailsByFile (g x)) : FailsByFile (m >>= g) := by
  intro d f d' h
  rw [runOn_bind] at h
  rcases hrun : m.runOn d with ⟨e | x, d₁⟩
  · rw [hrun] at h
    cases h
    exact hm d _ _ hrun
  · rw [hrun] at h
    exact hg x d₁ f d' h

theorem get_bind {g : Disk → DiskM β} (hg : ∀ d, FailsByFile (g d)) : FailsByFile (get >>= g) :=
  bind (fun _ _ _ h => nomatch h) hg

theorem changeTree (change : Tree → Tree) : FailsByFile (changeTree change) :=
  fun _ _ _ h => nomatch h

/-- A handler is given a fault of the files only. -/
theorem tryCatch {m : DiskM α} {handle : Fault → DiskM α} (hm : FailsByFile m)
    (hhandle : ∀ e, FailsByFile (handle (.file e))) : FailsByFile (tryCatch m handle) := by
  intro d f d' h
  rw [runOn_tryCatch] at h
  rcases hrun : m.runOn d with ⟨e | x, d₁⟩
  · rw [hrun] at h
    obtain ⟨e, rfl⟩ := hm d e d₁ hrun
    exact hhandle e d₁ f d' h
  · rw [hrun] at h
    cases h

end FailsByFile

theorem failsByFile_makeDir (path : String) : FailsByFile (makeDir path) := by
  apply FailsByFile.get_bind
  intro d
  rcases d.slot path with e | ⟨place, _ | name⟩
  · exact .fail e
  · exact .fail .alreadyExists
  · simp only
    split
    · exact .fail .alreadyExists
    · exact .changeTree _

theorem failsByFile_unlessDir (path : String) (e : FileError) :
    FailsByFile (unlessDir path (.file e)) := by
  intro d f d' h
  rw [runOn_unlessDir] at h
  split at h
  · cases h
  · cases h
    exact ⟨e, rfl⟩

theorem failsByFile_makeNested (paths : List String) : FailsByFile (makeNested paths) := by
  induction paths with
  | nil => exact .pure ()
  | cons path above ih =>
    rw [makeNested]
    apply FailsByFile.tryCatch (failsByFile_makeDir path)
    intro e
    split
    · exact ih.bind fun _ => .tryCatch (failsByFile_makeDir path) (failsByFile_unlessDir path)
    · exact failsByFile_unlessDir path e

theorem failsByFile_writeAtomically (path : String) (content : ByteArray) :
    FailsByFile (writeAtomically path content) := by
  apply (failsByFile_makeNested _).bind
  intro _
  apply FailsByFile.get_bind
  intro d
  rcases d.holder path with e | ⟨place, es⟩
  · exact .fail e
  · apply (FailsByFile.changeTree _).bind
    intro _
    apply FailsByFile.get_bind
    intro d₂
    rcases d₂.target path with e | ⟨goal, name⟩
    · exact (FailsByFile.changeTree _).bind fun _ => .fail e
    · exact .changeTree _

end DiskM

/-! ### What an attempt leaves -/

namespace Disk

/-- One disk comes from another by directories above a location that were missing. -/
structure Prepared (goal : Location) (d d' : Disk) : Prop where
  workDir : d'.workDir = d.workDir
  kinds : ∀ loc, d'.tree.kindAt? loc = d.tree.kindAt? loc ∨
    (d.tree.kindAt? loc = none ∧ d'.tree.kindAt? loc = some .dir ∧ Over loc goal)
  raw : ∀ loc, d'.tree.rawAt loc = d.tree.rawAt loc

/-- One disk comes from another by a file at a location, in the place of none or of another one,
and by directories above it that were missing. -/
structure Placed (goal : Location) (content : ByteArray) (d d' : Disk) : Prop where
  workDir : d'.workDir = d.workDir
  free : d.tree.kindAt? goal ≠ some .dir
  file : d'.tree.kindAt? goal = some (.file content)
  others : ∀ loc, loc ≠ goal → d'.tree.kindAt? loc = d.tree.kindAt? loc ∨
    (d.tree.kindAt? loc = none ∧ d'.tree.kindAt? loc = some .dir ∧ Over loc goal)
  raw : ∀ loc, d'.tree.rawAt loc = d.tree.rawAt loc

section Attempt

variable {d d' : Disk} {goal loc : Location} {content : ByteArray}

theorem Prepared.same_goal (h : Prepared goal d d') :
    d'.tree.kindAt? goal = d.tree.kindAt? goal := by
  rcases h.kinds goal with hsame | ⟨-, -, -, hne⟩
  · exact hsame
  · exact absurd rfl hne

theorem Prepared.keeps (h : Prepared goal d d') : Keeps d d' where
  workDir := h.workDir
  dir loc hloc := by
    rcases h.kinds loc with hsame | ⟨hnone, -⟩
    · rw [hsame, hloc]
    · rw [hnone] at hloc
      cases hloc

theorem Placed.keeps (h : Placed goal content d d') : Keeps d d' where
  workDir := h.workDir
  dir loc hloc := by
    rcases h.others loc (by rintro rfl; exact h.free hloc) with hsame | ⟨hnone, -⟩
    · rw [hsame, hloc]
    · rw [hnone] at hloc
      cases hloc

end Attempt

end Disk

/-! ### Outcomes -/

namespace WriteOutcome

/-- What becomes of a file that is there or not, when files are replaced or not. -/
def of (there overwrite : Bool) : WriteOutcome :=
  if there then if overwrite then .overwritten else .skipped else .created

variable {there overwrite : Bool}

theorem of_eq_created_iff : of there overwrite = .created ↔ there = false := by
  cases there <;> cases overwrite <;> decide

theorem of_eq_overwritten_iff :
    of there overwrite = .overwritten ↔ there = true ∧ overwrite = true := by
  cases there <;> cases overwrite <;> decide

theorem of_eq_skipped_iff :
    of there overwrite = .skipped ↔ there = true ∧ overwrite = false := by
  cases there <;> cases overwrite <;> decide

end WriteOutcome

namespace DiskM

open Disk (Keeps Leads Placed Prepared)
open Stateful

section Attempt

variable {d d' : Disk} {path s text : String} {xs : List String} {goal : Location}
  {content : ByteArray} (hleads : d.Leads path goal)
  (hsegs : Path.segments path = xs ++ [s]) (hs : Path.isIdle s = false)

include hleads hsegs hs

theorem prepared_of_makeNested {r : Except Fault Unit}
    (h : (makeNested (Path.ancestors path).tail).runOn d = (r, d')) : Prepared goal d d' := by
  have hends : ∀ a ∈ (Path.ancestors path).tail, (Path.segments a).getLast? ≠ some "" :=
    fun a ha => Path.getLast?_segments_of_mem_ancestors (List.mem_of_mem_tail ha)
  have hgrown := grown_of_makeNested hends h
  refine ⟨hgrown.workDir, ?_, (leavesRaw_makeNested _).rawAt_eq h⟩
  intro loc
  rcases hgrown.kinds loc with hsame | ⟨hnone, hdir, a, ha, haloc⟩
  · exact .inl hsame
  · refine .inr ⟨hnone, hdir, ?_⟩
    rcases hleads.over_of_locate hsegs hs hgrown.keeps ha haloc with hbefore | hover
    · rw [hnone] at hbefore
      cases hbefore
    · exact hover

theorem placed_of_writeAtomically (h : (writeAtomically path content).runOn d = (.ok (), d')) :
    d'.locate path = .ok goal ∧ Placed goal content d d' := by
  obtain ⟨d₁, loc, hmade, hloc, hfree, hwork, hkinds⟩ := writeAtomically_spec h
  have hprepared := prepared_of_makeNested hleads hsegs hs hmade
  obtain rfl := (hleads.keeps hprepared.keeps).eq_of_locate hloc
  have hkeeps : Keeps d₁ d' := by
    refine ⟨hwork, ?_⟩
    intro l hl
    rw [hkinds, if_neg (by rintro rfl; exact hfree hl), hl]
  refine ⟨hkeeps.locate hloc, hwork.trans hprepared.workDir, ?_, by rw [hkinds, if_pos rfl], ?_,
    (leavesRaw_writeAtomically path content).rawAt_eq h⟩
  · rw [← hprepared.same_goal]
    exact hfree
  · intro l hl
    rw [hkinds, if_neg hl]
    exact hprepared.kinds l

/-- **A file that cannot be written leaves no trace of itself.** -/
theorem prepared_of_writeAtomically {f : Fault}
    (h : (writeAtomically path content).runOn d = (.error f, d')) : Prepared goal d d' := by
  obtain ⟨d₁, r, hmade, hwork, hkinds⟩ := writeAtomically_error_spec h
  have hprepared := prepared_of_makeNested hleads hsegs hs hmade
  refine ⟨hwork.trans hprepared.workDir, ?_, (leavesRaw_writeAtomically path content).rawAt_eq h⟩
  intro loc
  rw [hkinds]
  exact hprepared.kinds loc

/-- A generated file is written where there is none or where it may replace one, and otherwise
nothing is changed. -/
theorem placed_of_writeGenerated {overwrite : Bool} {outcome : WriteOutcome}
    (h : (writeGenerated path text overwrite).runOn d = (.ok outcome, d')) :
    d'.locate path = .ok goal ∧
      outcome = WriteOutcome.of (d.tree.kindAt? goal).isSome overwrite ∧
      (outcome = .skipped → d' = d) ∧ (outcome ≠ .skipped → Placed goal text.toUTF8 d d') := by
  rw [writeGenerated, runOn_bind, runOn_ask] at h
  simp only at h
  by_cases hskip : (d.exists? path && !overwrite) = true
  · rw [if_pos hskip] at h
    cases h
    rw [Bool.and_eq_true, Bool.not_eq_true'] at hskip
    obtain ⟨loc, hloc, hkind⟩ := Disk.exists?_eq_true_iff.1 hskip.1
    obtain rfl := hleads.eq_of_locate hloc
    refine ⟨hloc, ?_, fun _ => rfl, fun hne => absurd rfl hne⟩
    rw [Option.isSome_iff_ne_none.2 hkind, hskip.2]
    rfl
  · rw [if_neg hskip] at h
    obtain ⟨_, d₁, hwrite, hrest⟩ := runOn_bind_eq_ok_iff.1 h
    cases hrest
    obtain ⟨hloc, hplaced⟩ := placed_of_writeAtomically hleads hsegs hs hwrite
    have hthere : d.exists? path = (d.tree.kindAt? goal).isSome := by
      rw [Bool.eq_iff_iff, Disk.exists?_eq_true_iff, Option.isSome_iff_ne_none]
      constructor
      · rintro ⟨loc, hloc, hkind⟩
        rw [← hleads.eq_of_locate hloc]
        exact hkind
      · intro hkind
        exact ⟨goal, hleads.locate_of_there hsegs hs hplaced.keeps hloc hkind, hkind⟩
    rw [hthere] at hskip ⊢
    refine ⟨hloc, ?_, ?_, fun _ => hplaced⟩
    · cases hsome : (d.tree.kindAt? goal).isSome with
      | false => rfl
      | true =>
        cases overwrite with
        | true => rfl
        | false => exact absurd (by rw [hsome]; rfl) hskip
    · intro hskipped
      split at hskipped <;> cases hskipped

theorem prepared_of_writeGenerated {overwrite : Bool} {f : Fault}
    (h : (writeGenerated path text overwrite).runOn d = (.error f, d')) :
    (∃ e, f = .file e) ∧ Prepared goal d d' := by
  rw [writeGenerated, runOn_bind, runOn_ask] at h
  simp only at h
  split at h
  · cases h
  · rw [runOn_bind] at h
    rcases hwrite : (writeAtomically path text.toUTF8).runOn d with ⟨e | _, d₁⟩
    · rw [hwrite] at h
      cases h
      exact ⟨failsByFile_writeAtomically path _ d f d' hwrite,
        prepared_of_writeAtomically hleads hsegs hs hwrite⟩
    · rw [hwrite] at h
      cases h

end Attempt

end DiskM

end WorkspaceTemplates

/-
  WorkspaceTemplates/Proofs/Generate/Writing.lean
  ===============================================
  **Writing files that stand apart.**

  Each file is judged and written on the disk that the files before it left.  When
  no file stands at or below the place of another one, these only add directories
  above its place, so every outcome is the one that the first disk decides, and
  every file that was written is still there at the end.  Writing may stop at any
  file; the files before it are then done, and from it on nothing has been touched
  (`progress_of_writeAll`).
-/
import WorkspaceTemplates.Generate
import WorkspaceTemplates.Proofs.Files.Rooted
import Mathlib.Data.List.Nodup
import Mathlib.Data.List.Pairwise

namespace WorkspaceTemplates.Generate

open Disk (Above Keeps Leads Over Rooted)
open WorkspaceTemplates.Path (Ordinary segments)

/-! ### Places apart -/

/-- Neither of two places is at or below the other one. -/
def Apart (p q : String) : Prop := ¬ segments p <+: segments q ∧ ¬ segments q <+: segments p

instance (p q : String) : Decidable (Apart p q) := inferInstanceAs (Decidable (_ ∧ _))

section Apart

variable {p q : String} {base : Location}

theorem Apart.symm (h : Apart p q) : Apart q p := ⟨h.2, h.1⟩

theorem Apart.site_ne (h : Apart p q) (base : Location) :
    base ++ segments p ≠ base ++ segments q := by
  intro heq
  apply h.1
  rw [List.append_cancel_left heq]

/-- What is at or below a place is neither at a place apart from it nor above that one. -/
theorem Apart.far {loc : Location} (h : Apart p q) (hloc : base ++ segments p <+: loc) :
    ¬ loc <+: base ++ segments q :=
  fun hle => h.1 ((List.prefix_append_right_inj base).1 (hloc.trans hle))

end Apart

/-- Files for ordinary places below a root which are apart from each other. -/
structure Laid (root : String) (files : List PlannedFile) : Prop where
  ordinary : ∀ f ∈ files, Ordinary f.label
  path : ∀ f ∈ files, f.path = Path.join root f.label
  apart : files.Pairwise fun f g => Apart f.label g.label

theorem Laid.apart_of_ne {root : String} {files : List PlannedFile} (h : Laid root files)
    {f g : PlannedFile} (hf : f ∈ files) (hg : g ∈ files) (hne : f ≠ g) :
    Apart f.label g.label := by
  have hsymm : Std.Symm fun f g : PlannedFile => Apart f.label g.label := ⟨fun _ _ => Apart.symm⟩
  exact h.apart.forall hf hg hne

theorem Laid.eq_of_label {root : String} {files : List PlannedFile} (h : Laid root files)
    {f g : PlannedFile} (hf : f ∈ files) (hg : g ∈ files) (heq : f.label = g.label) : f = g := by
  have hnodup : (files.map (·.label)).Nodup := by
    rw [List.Nodup, List.pairwise_map]
    apply h.apart.imp
    intro a b hab hsame
    apply hab.1
    rw [hsame]
  exact List.inj_on_of_nodup_map hnodup hf hg heq

theorem Laid.same_or_apart {root : String} {files : List PlannedFile} (h : Laid root files)
    {f g : PlannedFile} (hf : f ∈ files) (hg : g ∈ files) :
    g.label = f.label ∨ Apart f.label g.label := by
  by_cases hfg : f = g
  · exact .inl (by rw [hfg])
  · exact .inr (h.apart_of_ne hf hg hfg)

theorem Laid.tail {root : String} {file : PlannedFile} {files : List PlannedFile}
    (h : Laid root (file :: files)) : Laid root files where
  ordinary f hf := h.ordinary f (List.mem_cons_of_mem file hf)
  path f hf := h.path f (List.mem_cons_of_mem file hf)
  apart := h.apart.of_cons

/-! ### Outcomes -/

/-- What becomes of a file that is written below a directory of a disk. -/
def outcomeOn (d : Disk) (base : Location) (overwrite : Bool) (f : PlannedFile) : WriteOutcome :=
  WriteOutcome.of (d.tree.kindAt? (base ++ segments f.label)).isSome overwrite

/-- What is reported of it. -/
def entryOn (d : Disk) (base : Location) (overwrite : Bool) (f : PlannedFile) : GeneratedFile :=
  ⟨f.label, outcomeOn d base overwrite f, f.missing⟩

section Outcome

variable {d : Disk} {base : Location} {overwrite : Bool} {f : PlannedFile}

theorem outcomeOn_eq_created_iff :
    outcomeOn d base overwrite f = .created ↔
      d.tree.kindAt? (base ++ segments f.label) = none := by
  rw [outcomeOn, WriteOutcome.of_eq_created_iff, Option.isSome_eq_false_iff,
    Option.isNone_iff_eq_none]

theorem outcomeOn_eq_overwritten_iff :
    outcomeOn d base overwrite f = .overwritten ↔
      d.tree.kindAt? (base ++ segments f.label) ≠ none ∧ overwrite = true := by
  rw [outcomeOn, WriteOutcome.of_eq_overwritten_iff, Option.isSome_iff_ne_none]

theorem outcomeOn_eq_skipped_iff :
    outcomeOn d base overwrite f = .skipped ↔
      d.tree.kindAt? (base ++ segments f.label) ≠ none ∧ overwrite = false := by
  rw [outcomeOn, WriteOutcome.of_eq_skipped_iff, Option.isSome_iff_ne_none]

theorem outcomeOn_congr {d' : Disk}
    (h : d'.tree.kindAt? (base ++ segments f.label) = d.tree.kindAt? (base ++ segments f.label)) :
    outcomeOn d' base overwrite f = outcomeOn d base overwrite f := by
  rw [outcomeOn, outcomeOn, h]

end Outcome

/-- What writing files did when it came to some of them and is done with some of those: what was
skipped is as before, what was written holds its text, and everything else is as before, but for
directories above the files. -/
structure Progress (base : Location) (overwrite : Bool) (files done : List PlannedFile)
    (d d' : Disk) : Prop where
  keeps : Keeps d d'
  skipped : ∀ f ∈ done, outcomeOn d base overwrite f = .skipped →
    d'.tree.kindAt? (base ++ segments f.label) = d.tree.kindAt? (base ++ segments f.label)
  held : ∀ f ∈ done, outcomeOn d base overwrite f ≠ .skipped →
    d'.tree.kindAt? (base ++ segments f.label) = some (.file f.text.toUTF8)
  others : ∀ loc, (∀ f ∈ done, loc ≠ base ++ segments f.label) →
    d'.tree.kindAt? loc = d.tree.kindAt? loc ∨
      (d.tree.kindAt? loc = none ∧ d'.tree.kindAt? loc = some .dir ∧
        ∃ f ∈ files, Over loc (base ++ segments f.label))
  raw : ∀ loc, d'.tree.rawAt loc = d.tree.rawAt loc

/-- What writing some files did below a directory: those that were skipped are as before, the others
hold their texts, and everything else is as before, but for directories above the files. -/
structure Written (base : Location) (overwrite : Bool) (files : List PlannedFile)
    (d d' : Disk) : Prop where
  keeps : Keeps d d'
  skipped : ∀ f ∈ files, outcomeOn d base overwrite f = .skipped →
    d'.tree.kindAt? (base ++ segments f.label) = d.tree.kindAt? (base ++ segments f.label)
  held : ∀ f ∈ files, outcomeOn d base overwrite f ≠ .skipped →
    d'.tree.kindAt? (base ++ segments f.label) = some (.file f.text.toUTF8)
  others : ∀ loc, (∀ f ∈ files, loc ≠ base ++ segments f.label) →
    d'.tree.kindAt? loc = d.tree.kindAt? loc ∨
      (d.tree.kindAt? loc = none ∧ d'.tree.kindAt? loc = some .dir ∧
        ∃ f ∈ files, Above base (segments f.label) loc)
  raw : ∀ loc, d'.tree.rawAt loc = d.tree.rawAt loc

/-! ### What was written -/

section Progress

variable {d d₁ d' : Disk} {root : String} {base loc : Location} {overwrite : Bool}
  {files done : List PlannedFile}

theorem Progress.there (h : Progress base overwrite files done d d') {f : PlannedFile}
    (hf : f ∈ done) : d'.tree.kindAt? (base ++ segments f.label) ≠ none := by
  by_cases hskipped : outcomeOn d base overwrite f = .skipped
  · rw [h.skipped f hf hskipped]
    exact (outcomeOn_eq_skipped_iff.1 hskipped).1
  · rw [h.held f hf hskipped]
    exact nofun

/-- At and below a place that is none or one of the files, nothing else has changed than what was
written there. -/
theorem Progress.untouched (h : Progress base overwrite files done d d') {p : String}
    (hp : ∀ g ∈ files, g.label = p ∨ Apart p g.label) (hloc : base ++ segments p <+: loc)
    (hother : ∀ g ∈ done, loc ≠ base ++ segments g.label) :
    d'.tree.kindAt? loc = d.tree.kindAt? loc := by
  rcases h.others loc hother with hsame | ⟨-, -, g, hg, hle, hne⟩
  · exact hsame
  · rcases hp g hg with hlabel | hapart
    · rw [hlabel] at hle hne
      exact absurd (hle.eq_of_length_le hloc.length_le) hne
    · exact absurd hle (hapart.far hloc)

theorem Progress.same (h : Progress base overwrite files done d d') (hsub : done ⊆ files)
    {p : String} (hp : ∀ g ∈ files, Apart p g.label) :
    d'.tree.kindAt? (base ++ segments p) = d.tree.kindAt? (base ++ segments p) :=
  h.untouched (fun g hg => .inr (hp g hg)) (List.prefix_refl _)
    fun g hg => (hp g (hsub hg)).site_ne base

/-- At and below a file that was skipped nothing has changed. -/
theorem Progress.untouched_of_skipped (h : Progress base overwrite files done d d')
    (hlaid : Laid root files) (hsub : done ⊆ files) {f : PlannedFile} (hf : f ∈ done)
    (hskipped : outcomeOn d base overwrite f = .skipped)
    (hloc : base ++ segments f.label <+: loc) : d'.tree.kindAt? loc = d.tree.kindAt? loc := by
  by_cases heq : loc = base ++ segments f.label
  · rw [heq]
    exact h.skipped f hf hskipped
  · refine h.untouched (fun g hg => hlaid.same_or_apart (hsub hf) hg) hloc ?_
    intro g hg hgoal
    rcases hlaid.same_or_apart (hsub hf) (hsub hg) with hlabel | hapart
    · exact heq (by rw [hgoal, hlabel])
    · exact hapart.far hloc (by rw [hgoal])

/-- What is above a file and was missing below a directory is one of those between. -/
theorem Written.of_progress (hbase : d.tree.kindAt? base = some .dir)
    (h : Progress base overwrite files files d d') : Written base overwrite files d d' := by
  refine ⟨h.keeps, h.skipped, h.held, ?_, h.raw⟩
  intro loc hother
  rcases h.others loc hother with hsame | ⟨hnone, hdir, f, hf, hover⟩
  · exact .inl hsame
  · exact .inr ⟨hnone, hdir, f, hf, .of_over hbase hnone hover⟩

theorem Written.progress (h : Written base overwrite files d d') :
    Progress base overwrite files files d d' := by
  refine ⟨h.keeps, h.skipped, h.held, ?_, h.raw⟩
  intro loc hother
  rcases h.others loc hother with hsame | ⟨hnone, hdir, f, hf, habove⟩
  · exact .inl hsame
  · exact .inr ⟨hnone, hdir, f, hf, habove.over⟩

theorem Written.there (h : Written base overwrite files d d') {f : PlannedFile} (hf : f ∈ files) :
    d'.tree.kindAt? (base ++ segments f.label) ≠ none :=
  h.progress.there hf

theorem Written.untouched (h : Written base overwrite files d d') (hlaid : Laid root files)
    {f : PlannedFile} (hf : f ∈ files) (hskipped : outcomeOn d base overwrite f = .skipped)
    (hloc : base ++ segments f.label <+: loc) : d'.tree.kindAt? loc = d.tree.kindAt? loc :=
  h.progress.untouched_of_skipped hlaid (List.Subset.refl files) hf hskipped hloc

/-- What one file did, and then others that are apart from it. -/
theorem Progress.cons {file : PlannedFile} (hfirst : Progress base overwrite [file] [file] d d₁)
    (hapart : ∀ f ∈ files, Apart file.label f.label) (hsub : done ⊆ files)
    (hrest : Progress base overwrite files done d₁ d') :
    Progress base overwrite (file :: files) (file :: done) d d' := by
  have hmem := List.mem_singleton_self file
  have hkept := hrest.same hsub hapart
  have hfar : ∀ f ∈ done, d₁.tree.kindAt? (base ++ segments f.label) =
      d.tree.kindAt? (base ++ segments f.label) := by
    intro f hf
    apply hfirst.same (List.Subset.refl _)
    intro g hg
    rw [List.mem_singleton.1 hg]
    exact (hapart f (hsub hf)).symm
  refine ⟨hfirst.keeps.trans hrest.keeps, ?_, ?_, ?_,
    fun loc => (hrest.raw loc).trans (hfirst.raw loc)⟩
  · intro f hf hskipped
    rcases List.mem_cons.1 hf with rfl | hf
    · rw [hkept, hfirst.skipped f hmem hskipped]
    · rw [← outcomeOn_congr (hfar f hf)] at hskipped
      rw [hrest.skipped f hf hskipped, hfar f hf]
  · intro f hf hne
    rcases List.mem_cons.1 hf with rfl | hf
    · rw [hkept, hfirst.held f hmem hne]
    · rw [← outcomeOn_congr (hfar f hf)] at hne
      exact hrest.held f hf hne
  · intro loc hloc
    rw [List.forall_mem_cons] at hloc
    rcases hfirst.others loc (by simpa using hloc.1) with hsame | ⟨hnone, hdir, f, hf, hover⟩
    · rw [← hsame]
      rcases hrest.others loc hloc.2 with hsame' | ⟨hnone, hdir, f, hf, hover⟩
      · exact .inl hsame'
      · exact .inr ⟨hnone, hdir, f, List.mem_cons_of_mem file hf, hover⟩
    · refine .inr ⟨hnone, hrest.keeps.dir loc hdir, file, List.mem_cons_self, ?_⟩
      rw [← List.mem_singleton.1 hf]
      exact hover

end Progress

section Writing

variable {d d' : Disk} {root : String} {base : Location} {overwrite : Bool}

/-! ### One file -/

/-- A file is done as the disk decides, or it cannot be written, and then nothing but directories
above it are new. -/
theorem progress_of_writeFile {file : PlannedFile} {r : Except Fault GeneratedFile}
    (hroot : d.Leads root base) (hordinary : Ordinary file.label)
    (hpath : file.path = Path.join root file.label)
    (h : (writeFile overwrite file).runOn d = (r, d')) :
    (r = .ok (entryOn d base overwrite file) ∧ Progress base overwrite [file] [file] d d') ∨
      ((∃ e, r = .error (.file e)) ∧ Progress base overwrite [file] [] d d') := by
  obtain ⟨xs, s, hsegs, hs⟩ := Path.exists_segments_join root hordinary.named
  have hleads := hroot.join hordinary.named
  have hmem := List.mem_singleton_self file
  rw [writeFile, hpath, Stateful.runOn_bind] at h
  rcases hwrite : (DiskM.writeGenerated (Path.join root file.label) file.text overwrite).runOn d
    with ⟨f | outcome, d₁⟩
  · rw [hwrite] at h
    cases h
    obtain ⟨⟨e, rfl⟩, hprepared⟩ := DiskM.prepared_of_writeGenerated hleads hsegs hs hwrite
    refine .inr ⟨⟨e, rfl⟩, hprepared.keeps, nofun, nofun, ?_, hprepared.raw⟩
    intro loc _
    rcases hprepared.kinds loc with hsame | ⟨hnone, hdir, hover⟩
    · exact .inl hsame
    · exact .inr ⟨hnone, hdir, file, hmem, hover⟩
  · rw [hwrite] at h
    cases h
    obtain ⟨-, houtcome, hskip, hplaced⟩ :=
      DiskM.placed_of_writeGenerated hleads hsegs hs hwrite
    have hentry : outcomeOn d base overwrite file = outcome := houtcome.symm
    refine .inl ⟨by rw [entryOn, hentry], ?_⟩
    by_cases hskipped : outcome = .skipped
    · obtain rfl := hskip hskipped
      refine ⟨Keeps.refl d', fun _ _ _ => rfl, ?_, fun _ _ => .inl rfl, fun _ => rfl⟩
      intro f hf hne
      rw [List.mem_singleton.1 hf, hentry] at hne
      exact absurd hskipped hne
    · have hplaced := hplaced hskipped
      refine ⟨hplaced.keeps, ?_, ?_, ?_, hplaced.raw⟩
      · intro f hf hf'
        rw [List.mem_singleton.1 hf, hentry] at hf'
        exact absurd hf' hskipped
      · intro f hf _
        rw [List.mem_singleton.1 hf]
        exact hplaced.file
      · intro loc hloc
        rcases hplaced.others loc (hloc file hmem) with hsame | ⟨hnone, hdir, hover⟩
        · exact .inl hsame
        · exact .inr ⟨hnone, hdir, file, hmem, hover⟩

/-! ### One file after another -/

/-- **Files that are laid apart are done as the first disk decides**, all of them, or those before
one that cannot be written. -/
theorem progress_of_writeAll {files : List PlannedFile} {r : Except Fault (List GeneratedFile)}
    (hroot : d.Leads root base) (hlaid : Laid root files)
    (h : (writeAll overwrite files).runOn d = (r, d')) :
    (r = .ok (files.map (entryOn d base overwrite)) ∧
      Progress base overwrite files files d d') ∨
    ∃ done file rest e, files = done ++ file :: rest ∧ r = .error (.file e) ∧
      Progress base overwrite (done ++ [file]) done d d' := by
  induction files generalizing d d' r with
  | nil =>
    cases h
    exact .inl ⟨rfl, Keeps.refl _, nofun, nofun, fun _ _ => .inl rfl, fun _ => rfl⟩
  | cons file files ih =>
    rw [writeAll, Stateful.runOn_bind] at h
    rcases hfile : (writeFile overwrite file).runOn d with ⟨r₁, d₁⟩
    rw [hfile] at h
    have hapart : ∀ f ∈ files, Apart file.label f.label :=
      fun f hf => List.rel_of_pairwise_cons hlaid.apart hf
    rcases progress_of_writeFile hroot (hlaid.ordinary file List.mem_cons_self)
      (hlaid.path file List.mem_cons_self) hfile with ⟨rfl, hfirst⟩ | ⟨⟨e, rfl⟩, hfirst⟩
    · simp only at h
      rw [Stateful.runOn_bind] at h
      rcases hfiles : (writeAll overwrite files).runOn d₁ with ⟨r₂, d₂⟩
      rw [hfiles] at h
      rcases ih (hroot.keeps hfirst.keeps) hlaid.tail hfiles with
        ⟨rfl, hrest⟩ | ⟨done, file', rest, e, rfl, rfl, hrest⟩
      · cases h
        refine .inl ⟨?_, hfirst.cons hapart (List.Subset.refl files) hrest⟩
        congr 2
        apply List.map_congr_left
        intro f hf
        rw [entryOn, entryOn, outcomeOn_congr]
        exact hfirst.same (List.Subset.refl _) (by simpa using (hapart f hf).symm)
      · cases h
        refine .inr ⟨file :: done, file', rest, e, rfl, rfl, ?_⟩
        apply hfirst.cons _ (List.subset_append_left done [file']) hrest
        intro f hf
        apply hapart f
        rcases List.mem_append.1 hf with hf | hf
        · exact List.mem_append_left _ hf
        · rw [List.mem_singleton.1 hf]
          simp
    · cases h
      exact .inr ⟨[], file, files, e, rfl, rfl, hfirst⟩

/-- Files that are all written below a directory are written as the first disk decides. -/
theorem runOn_writeAll {files : List PlannedFile} {entries : List GeneratedFile}
    (hroot : d.Rooted root base) (hlaid : Laid root files)
    (h : (writeAll overwrite files).runOn d = (.ok entries, d')) :
    entries = files.map (entryOn d base overwrite) ∧ Written base overwrite files d d' := by
  rcases progress_of_writeAll hroot.leads hlaid h with
    ⟨hr, hprogress⟩ | ⟨done, file, rest, e, -, hr, -⟩
  · cases hr
    exact ⟨rfl, .of_progress hroot.dir hprogress⟩
  · cases hr

end Writing

end WorkspaceTemplates.Generate

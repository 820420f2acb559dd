/-
  WorkspaceTemplates/Proofs/Generate/Again.lean
  =============================================
  **Generating a second time.**

  A generation that succeeded leaves its files where it can write them again, and no
  template among the files that it wrote.  So a second generation plans the same
  files and finds all of them: it skips them, or writes the same bytes once more, and
  either way nothing changes (`generate_again`).
-/
import WorkspaceTemplates.Proofs.Files.Again
import WorkspaceTemplates.Proofs.Generate.Run
import WorkspaceTemplates.Proofs.Template.Spared

namespace WorkspaceTemplates.Generate

open Disk (Keeps Rooted Same Spared)
open DiskM (SettledAt)
open WorkspaceTemplates.Path (Ordinary segments)

/-! ### Files that are written again -/

/-- What becomes of a file that is there. -/
def outcomeAgain (overwrite : Bool) : WriteOutcome := if overwrite then .overwritten else .skipped

/-- What is reported of a file when it is there. -/
def entryAgain (overwrite : Bool) (f : PlannedFile) : GeneratedFile :=
  ⟨f.label, outcomeAgain overwrite, f.missing⟩

/-- A file is there, and if it is to be replaced, it stands as it was written. -/
structure Settled (overwrite : Bool) (d : Disk) (f : PlannedFile) : Prop where
  there : d.exists? f.path = true
  settled : overwrite = true → SettledAt d f.path f.text.toUTF8

section Again

variable {d d₁ d' : Disk} {overwrite : Bool} {file : PlannedFile} {files : List PlannedFile}

theorem Settled.same (h : Settled overwrite d file) (hsame : Same d d') :
    Settled overwrite d' file :=
  ⟨hsame.exists? h.there, fun hover => (h.settled hover).keeps hsame.keeps
    fun loc _ => hsame.kinds loc⟩

theorem writeFile_again (h : Settled overwrite d file) :
    ∃ d', (writeFile overwrite file).runOn d = (.ok (entryAgain overwrite file), d') ∧
      Same d d' := by
  simp only [writeFile, DiskM.writeGenerated, Stateful.runOn_bind, DiskM.runOn_ask, h.there,
    Bool.true_and]
  cases overwrite with
  | false => exact ⟨d, rfl, Same.refl d⟩
  | true =>
    obtain ⟨d', hrun, hsame⟩ := (h.settled rfl).again
    refine ⟨d', ?_, hsame⟩
    simp only [Bool.not_true, Bool.false_eq_true, if_false, Stateful.runOn_bind, hrun]
    rfl

/-- **Files that are settled are all written again**, and nothing changes. -/
theorem writeAll_again (h : ∀ f ∈ files, Settled overwrite d f) :
    ∃ d', (writeAll overwrite files).runOn d = (.ok (files.map (entryAgain overwrite)), d') ∧
      Same d d' := by
  induction files generalizing d with
  | nil => exact ⟨d, rfl, Same.refl d⟩
  | cons file files ih =>
    rw [List.forall_mem_cons] at h
    obtain ⟨d₁, hfile, hsame⟩ := writeFile_again h.1
    obtain ⟨d', hrest, hsame'⟩ := ih fun f hf => (h.2 f hf).same hsame
    refine ⟨d', ?_, hsame.trans hsame'⟩
    rw [writeAll, Stateful.runOn_bind, hfile]
    simp only [Stateful.runOn_bind, hrest]
    rfl

end Again

/-! ### Files that have been written -/

section Settled

variable {d d₁ d' : Disk} {root : String} {overwrite : Bool} {file : PlannedFile}
  {files : List PlannedFile}

/-- A file that is done is settled where its path leads, and elsewhere nothing but directories are
new.  Nothing is asked of its root, which may have been made for it. -/
theorem settled_of_writeFile {entry : GeneratedFile}
    (h : (writeFile overwrite file).runOn d = (.ok entry, d₁)) :
    entry.path = file.label ∧ entry.missing = file.missing ∧ Keeps d d₁ ∧
      Settled overwrite d₁ file ∧ ∃ loc, d₁.locate file.path = .ok loc ∧
        d₁.tree.kindAt? loc ≠ none ∧ ∀ l, l ≠ loc → Spared l d d₁ := by
  rw [writeFile, Stateful.runOn_bind_eq_ok_iff] at h
  obtain ⟨outcome, _, hwrite, hreturn⟩ := h
  cases hreturn
  refine ⟨rfl, rfl, ?_⟩
  rw [DiskM.writeGenerated, Stateful.runOn_bind, DiskM.runOn_ask] at hwrite
  simp only at hwrite
  split at hwrite
  · rename_i hskip
    cases hwrite
    rw [Bool.and_eq_true, Bool.not_eq_true'] at hskip
    obtain ⟨loc, hloc, hkind⟩ := Disk.exists?_eq_true_iff.1 hskip.1
    refine ⟨.refl _, ⟨hskip.1, ?_⟩, loc, hloc, hkind, fun _ _ => .inl rfl⟩
    intro hover
    rw [hskip.2] at hover
    cases hover
  · obtain ⟨_, d₂, hrun, hreturn⟩ := Stateful.runOn_bind_eq_ok_iff.1 hwrite
    cases hreturn
    obtain ⟨dm, loc, hmade, hloc, hfree, hwork, hkinds⟩ := DiskM.writeAtomically_spec hrun
    have hgrown := DiskM.grown_of_makeNested
      (fun a ha => Path.getLast?_segments_of_mem_ancestors (List.mem_of_mem_tail ha)) hmade
    have hkeeps : Keeps dm d₁ := by
      refine ⟨hwork, ?_⟩
      intro l hl
      rw [hkinds, if_neg (by rintro rfl; exact hfree hl), hl]
    have hfile : d₁.tree.kindAt? loc = some (.file file.text.toUTF8) := by rw [hkinds, if_pos rfl]
    have hthere : d₁.tree.kindAt? loc ≠ none := by simp [hfile]
    have hloc₁ := hkeeps.locate hloc
    refine ⟨hgrown.keeps.trans hkeeps, ⟨Disk.exists?_eq_true_iff.2 ⟨loc, hloc₁, hthere⟩, ?_⟩,
      loc, hloc₁, hthere, ?_⟩
    · exact fun _ => DiskM.settledAt_of_writeAtomically hrun hloc₁ hfile
    · intro l hl
      rw [Spared, hkinds, if_neg hl]
      rcases hgrown.kinds l with hsame | ⟨hnone, hdir, -⟩
      · exact .inl hsame
      · exact .inr ⟨hnone, hdir⟩

theorem Settled.keeps (h : Settled overwrite d file) (hkeeps : Keeps d d')
    (hsame : ∀ loc, d.locate file.path = .ok loc → d'.tree.kindAt? loc = d.tree.kindAt? loc) :
    Settled overwrite d' file := by
  refine ⟨?_, fun hover => (h.settled hover).keeps hkeeps hsame⟩
  obtain ⟨loc, hloc, hkind⟩ := Disk.exists?_eq_true_iff.1 h.there
  exact Disk.exists?_eq_true_iff.2 ⟨loc, hkeeps.locate hloc, by rw [hsame loc hloc]; exact hkind⟩

/-- What the first of some files did, and then the others below the root that it has found. -/
theorem rooted_of_writeAll {entries : List GeneratedFile} (hlaid : Laid root (file :: files))
    (h : (writeAll overwrite (file :: files)).runOn d = (.ok entries, d')) :
    ∃ entry others d₁ base, entries = entry :: others ∧
      (writeFile overwrite file).runOn d = (.ok entry, d₁) ∧
      (writeAll overwrite files).runOn d₁ = (.ok others, d') ∧
      d₁.locate file.path = .ok (base ++ segments file.label) ∧
      (∀ l, l ≠ base ++ segments file.label → Spared l d d₁) ∧
      Written base overwrite files d₁ d' := by
  rw [writeAll, Stateful.runOn_bind_eq_ok_iff] at h
  obtain ⟨entry, d₁, hfile, h⟩ := h
  obtain ⟨others, d₂, hfiles, hreturn⟩ := Stateful.runOn_bind_eq_ok_iff.1 h
  cases hreturn
  obtain ⟨-, -, -, -, loc, hloc, -, hspared⟩ := settled_of_writeFile hfile
  have hlocate := hloc
  rw [hlaid.path file List.mem_cons_self] at hlocate
  obtain ⟨base, hroot, rfl⟩ :=
    Disk.rooted_of_locate (hlaid.ordinary file List.mem_cons_self) hlocate
  exact ⟨entry, others, d₁, base, rfl, hfile, hfiles, hloc, hspared,
    (runOn_writeAll hroot hlaid.tail hfiles).2⟩

/-- Files that have all been written are settled, and reported in their order. -/
theorem settled_of_writeAll {entries : List GeneratedFile} (hlaid : Laid root files)
    (h : (writeAll overwrite files).runOn d = (.ok entries, d')) :
    (entries.map fun e => (e.path, e.missing)) = (files.map fun f => (f.label, f.missing)) ∧
      ∀ f ∈ files, Settled overwrite d' f := by
  induction files generalizing d entries with
  | nil =>
    cases h
    exact ⟨rfl, nofun⟩
  | cons file files ih =>
    obtain ⟨entry, others, d₁, base, rfl, hfile, hfiles, hloc, -, hwritten⟩ :=
      rooted_of_writeAll hlaid h
    obtain ⟨hpath, hmissing, -, hsettled, -⟩ := settled_of_writeFile hfile
    obtain ⟨hentries, hrest⟩ := ih hlaid.tail hfiles
    refine ⟨by rw [List.map_cons, List.map_cons, hentries, hpath, hmissing], ?_⟩
    rw [List.forall_mem_cons]
    refine ⟨hsettled.keeps hwritten.keeps ?_, hrest⟩
    -- the files after this one are apart from it
    intro loc hloc'
    rw [hloc] at hloc'
    cases hloc'
    exact hwritten.progress.same (List.Subset.refl files)
      fun f hf => List.rel_of_pairwise_cons hlaid.apart hf

/-- Files that have all been written have brought nothing but directories elsewhere. -/
theorem spared_of_writeAll {entries : List GeneratedFile} (hlaid : Laid root (file :: files))
    (h : (writeAll overwrite (file :: files)).runOn d = (.ok entries, d')) :
    Keeps d d' ∧ ∃ base, ∀ loc, (∀ f ∈ file :: files, loc ≠ base ++ segments f.label) →
      Spared loc d d' := by
  obtain ⟨entry, others, d₁, base, -, hfile, -, -, hspared, hwritten⟩ := rooted_of_writeAll hlaid h
  obtain ⟨-, -, hkeeps, -⟩ := settled_of_writeFile hfile
  refine ⟨hkeeps.trans hwritten.keeps, base, ?_⟩
  intro loc hloc
  rw [List.forall_mem_cons] at hloc
  apply (hspared loc hloc.1).trans hwritten.keeps
  rcases hwritten.others loc hloc.2 with hsame | ⟨hnone, hdir, -⟩
  · exact .inl hsame
  · exact .inr ⟨hnone, hdir⟩

end Settled

/-! ### Two generations -/

section Generate

variable {layers : List TemplateLayer} {options : GenerateOptions} {root : String} {ctx : Context}
  {d d' : Disk} {report : Report} {files : List PlannedFile}

/-- Writing the files of a plan does not change what is planned. -/
theorem plan_of_writeAll {entries : List GeneratedFile}
    (hplain : ∀ dir, .directory dir ∈ layers → ".." ∉ segments dir)
    (hplan : plan d layers options root ctx = .ok files)
    (h : (writeAll options.overwrite files).runOn d = (.ok entries, d')) :
    plan d' layers options root ctx = .ok files := by
  have hplanned := plan_eq_ok hplan
  have hlaid := hplanned.laid (levels_sublist _ _) (commands_sublist _)
  have hlabels := hplanned.labels
  cases files with
  | nil => cases hlabels
  | cons file files =>
    obtain ⟨hkeeps, base, hspared⟩ := spared_of_writeAll hlaid h
    have hsites : ∀ loc, (∀ names ∈ sites, loc ≠ base ++ names) → Spared loc d d' := by
      intro loc hloc
      apply hspared loc
      intro f hf
      apply hloc
      apply segments_mem_sites (levels_sublist ctx options.forced) (commands_sublist ctx)
      rw [← hlabels]
      exact List.mem_map_of_mem hf
    rw [← hplan]
    apply plan_congr
    intro t
    apply Template.demand_congr
    intro layer hlayer
    exact Template.text?_of_spared hkeeps hsites (fun dir hdir => hplain dir (hdir ▸ hlayer)) t

/-- After a generation that succeeded every place of the workspace is taken. -/
theorem exists?_of_generate (h : (generate layers options root ctx).runOn d = (.ok report, d'))
    {p : String}
    (hp : p ∈ places (Selection.levels (Engine.standard.normalize ctx) options.forced)
      (Selection.commands (Engine.standard.normalize ctx))) :
    d'.exists? (Path.join root p) = true := by
  obtain ⟨files, hplan, hwrite⟩ := writeAll_of_generate h
  have hplanned := plan_eq_ok hplan
  have hlaid := hplanned.laid (levels_sublist _ _) (commands_sublist _)
  rw [← hplanned.labels] at hp
  obtain ⟨f, hf, rfl⟩ := List.mem_map.1 hp
  rw [← hlaid.path f hf]
  exact ((settled_of_writeAll hlaid hwrite).2 f hf).there

/-- **A second generation finds what the first one left**, reports the same files with the same
missing names, and changes nothing. -/
theorem generate_again (hplain : ∀ dir, .directory dir ∈ layers → ".." ∉ segments dir)
    (h : (generate layers options root ctx).runOn d = (.ok report, d')) :
    ∃ d'', (generate layers options root ctx).runOn d' =
        (.ok ⟨report.files.map fun f =>
          { f with outcome := if options.overwrite then .overwritten else .skipped }⟩, d'') ∧
      Same d' d'' := by
  obtain ⟨files, hfiles, hwrite⟩ := writeAll_of_generate h
  have hlaid := (plan_eq_ok hfiles).laid (levels_sublist _ _) (commands_sublist _)
  obtain ⟨hentries, hsettled⟩ := settled_of_writeAll hlaid hwrite
  obtain ⟨d'', hagain, hsame⟩ := writeAll_again hsettled
  refine ⟨d'', ?_, hsame⟩
  rw [generate, Stateful.runOn_bind, DiskM.runOn_demand, plan_of_writeAll hplain hfiles hwrite]
  simp only [Stateful.runOn_bind, hagain]
  -- an entry of the second report is made of the path and the names of one of the first
  have hmap : files.map (entryAgain options.overwrite) = report.files.map fun f =>
      { f with outcome := if options.overwrite then .overwritten else .skipped } := by
    have hpairs := congrArg (List.map fun p : String × List String =>
      (⟨p.1, outcomeAgain options.overwrite, p.2⟩ : GeneratedFile)) hentries
    rw [List.map_map, List.map_map] at hpairs
    exact hpairs.symm
  rw [hmap]
  rfl

end Generate

/-- A workspace that is generated into the directory of its own templates is generated again. -/
theorem generate_again_started :
    (∀ dir, .directory dir ∈ [TemplateLayer.directory "t"] → ".." ∉ segments dir) ∧
      ∃ report d' d'',
        (generate [.directory "t"] ⟨false, true, []⟩ "t" .empty).runOn (started []) =
          (.ok report, d') ∧
        (generate [.directory "t"] ⟨false, true, []⟩ "t" .empty).runOn d' =
          (.ok ⟨report.files.map fun f => { f with outcome := .overwritten }⟩, d'') ∧
        Same d' d'' := by
  have hplain : ∀ dir, .directory dir ∈ [TemplateLayer.directory "t"] → ".." ∉ segments dir := by
    intro dir hdir
    obtain rfl := TemplateLayer.directory.inj (List.mem_singleton.1 hdir)
    decide +kernel
  have hfiles : (((generate [.directory "t"] ⟨false, true, []⟩ "t" .empty).runOn
      (started [])).1.toOption.isSome) = true := by decide +kernel
  rcases hrun : (generate [.directory "t"] ⟨false, true, []⟩ "t" .empty).runOn (started []) with
    ⟨f | report, d'⟩
  · rw [hrun] at hfiles
    cases hfiles
  · obtain ⟨d'', hagain, hsame⟩ := generate_again hplain hrun
    exact ⟨hplain, report, d', d'', rfl, hagain, hsame⟩

end WorkspaceTemplates.Generate

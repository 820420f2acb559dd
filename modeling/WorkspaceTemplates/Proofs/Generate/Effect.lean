/-
  WorkspaceTemplates/Proofs/Generate/Effect.lean
  ==============================================
  **The full effect of a generation that succeeds.**

  A report has one entry for each place of the workspace.  The entry and the file
  afterwards are decided by what stood at the place before, by the options, and by
  the rendering of the place's own template, whatever else the disk holds; and
  nothing else changes but for the directories of the workspace (`Effect`).
-/
import WorkspaceTemplates.Proofs.Generate.Run
import WorkspaceTemplates.Proofs.Manifest

namespace WorkspaceTemplates.Generate

open Disk (Rooted)
open WorkspaceTemplates.Path (segments)

/-- What a generation with some options did to a disk below a directory, where the context is
complete. -/
structure Effect (layers : List TemplateLayer) (options : GenerateOptions) (ctx : Context)
    (base : Location) (d d' : Disk) (report : Report) : Prop where
  paths : report.files.map (·.path) =
    places (Selection.levels ctx options.forced) (Selection.commands ctx)
  created : ∀ f ∈ report.files,
    f.outcome = .created ↔ d.tree.kindAt? (base ++ segments f.path) = none
  overwritten : ∀ f ∈ report.files, f.outcome = .overwritten ↔
    d.tree.kindAt? (base ++ segments f.path) ≠ none ∧ options.overwrite = true
  skipped : ∀ f ∈ report.files, f.outcome = .skipped ↔
    d.tree.kindAt? (base ++ segments f.path) ≠ none ∧ options.overwrite = false
  /-- A skipped file is as before, and so is what stands below it if it is a directory. -/
  untouched : ∀ f ∈ report.files, f.outcome = .skipped →
    ∀ loc, base ++ segments f.path <+: loc → d'.tree.kindAt? loc = d.tree.kindAt? loc
  rendering : ∀ t ∈ templates (Selection.levels ctx options.forced) (Selection.commands ctx),
    ∃ text, t.demand d layers = .ok text ∧ ∀ f ∈ report.files, f.path = t.target →
      f.missing = (Engine.standard.render text ctx).missing ∧
        (f.outcome ≠ .skipped → d'.tree.kindAt? (base ++ segments f.path) =
          some (.file (Engine.standard.render text ctx).output.toUTF8))
  rules : ∃ text, text = Manifest.text (Manifest.rules ctx (Selection.levels ctx options.forced)) ∧
    Manifest.files? "rules" text =
      some ((Selection.levels ctx options.forced).map fun l => (l.fileName, Layout.rule l)) ∧
    ∀ f ∈ report.files, f.path = Layout.rulesManifest → f.missing = [] ∧
      (f.outcome ≠ .skipped →
        d'.tree.kindAt? (base ++ segments f.path) = some (.file text.toUTF8))
  commands : ∃ text, text = Manifest.text (Manifest.commands ctx (Selection.commands ctx)) ∧
    Manifest.files? "commands" text =
      some ((Selection.commands ctx).map fun c => (c.fileName, Layout.command c)) ∧
    ∀ f ∈ report.files, f.path = Layout.commandsManifest → f.missing = [] ∧
      (f.outcome ≠ .skipped →
        d'.tree.kindAt? (base ++ segments f.path) = some (.file text.toUTF8))
  frame : ∀ loc, (∀ f ∈ report.files, loc ≠ base ++ segments f.path) →
    d'.tree.kindAt? loc = d.tree.kindAt? loc ∨
      (d.tree.kindAt? loc = none ∧ d'.tree.kindAt? loc = some .dir ∧
        ∃ dir ∈ directories, loc = base ++ segments dir)
  directories : ∀ dir ∈ directories, d'.tree.kindAt? (base ++ segments dir) = some .dir
  /-- Entries whose names are no texts are neither made nor lost. -/
  raw : ∀ loc, d'.tree.rawAt loc = d.tree.rawAt loc
  workDir : d'.workDir = d.workDir

section Effect

variable {layers : List TemplateLayer} {options : GenerateOptions} {root : String} {ctx : Context}
  {base : Location} {d d' : Disk} {report : Report} {files : List PlannedFile}

namespace Ran

variable (h : Ran layers options root ctx base d d' report files)

include h

/-- A planned file has the names without a value that its entry has, and is there afterwards unless
it was skipped. -/
theorem held {f : GeneratedFile} {g : PlannedFile} (hf : f ∈ report.files) (hg : g ∈ files)
    (hpath : f.path = g.label) :
    f.missing = g.missing ∧ (f.outcome ≠ .skipped →
      d'.tree.kindAt? (base ++ segments f.path) = some (.file g.text.toUTF8)) := by
  have heq := h.eq_entryOn hf hg hpath
  subst heq
  exact ⟨rfl, h.written.held g hg⟩

theorem rendering {t : Template}
    (ht : t ∈ templates (Selection.levels ctx options.forced) (Selection.commands ctx)) :
    ∃ text, t.demand d layers = .ok text ∧ ∀ f ∈ report.files, f.path = t.target →
      f.missing = (Engine.standard.render text ctx).missing ∧
        (f.outcome ≠ .skipped → d'.tree.kindAt? (base ++ segments f.path) =
          some (.file (Engine.standard.render text ctx).output.toUTF8)) := by
  obtain ⟨text, htext, hmem⟩ := h.planned.rendering t ht
  exact ⟨text, htext, fun f hf hpath => h.held hf hmem hpath⟩

theorem frame {loc : Location} (hloc : ∀ f ∈ report.files, loc ≠ base ++ segments f.path) :
    d'.tree.kindAt? loc = d.tree.kindAt? loc ∨
      (d.tree.kindAt? loc = none ∧ d'.tree.kindAt? loc = some .dir ∧
        ∃ dir ∈ Generate.directories, loc = base ++ segments dir) := by
  have hother : ∀ g ∈ files, loc ≠ base ++ segments g.label :=
    fun g hg => hloc (entryOn d base options.overwrite g) (h.entry_mem hg)
  rcases h.written.others loc hother with hsame | ⟨hnone, hdir, g, hg, habove⟩
  · exact .inl hsame
  · exact .inr ⟨hnone, hdir, directory_of_above (levels_sublist _ _) (commands_sublist _)
      (h.label_mem hg) habove⟩

theorem directories {dir : String} (hdir : dir ∈ Generate.directories) :
    d'.tree.kindAt? (base ++ segments dir) = some .dir := by
  obtain ⟨p, hp, name, hsegs⟩ := exists_place_of_directory _ _ hdir
  rw [← h.planned.labels] at hp
  obtain ⟨g, hg, rfl⟩ := List.mem_map.1 hp
  have hthere := h.written.there hg
  rw [hsegs, ← List.append_assoc] at hthere
  exact Tree.kindAt?_of_append (List.cons_ne_nil name []) hthere

end Ran

/-- A generation that succeeds below a root that leads to a directory has its full effect. -/
theorem effect_of_generate (hroot : d.Rooted root base)
    (h : (generate layers options root ctx).runOn d = (.ok report, d')) :
    Effect layers options (Engine.standard.normalize ctx) base d d' report := by
  obtain ⟨files, hran⟩ := ran_of_generate hroot h
  refine ⟨hran.paths, ?_, ?_, ?_, ?_, fun t ht => hran.rendering ht, ?_, ?_,
    fun loc hloc => hran.frame hloc, fun dir hdir => hran.directories hdir, hran.written.raw,
    hran.written.keeps.workDir⟩
  · intro f hf
    obtain ⟨g, hg, rfl⟩ := hran.exists_file hf
    exact outcomeOn_eq_created_iff
  · intro f hf
    obtain ⟨g, hg, rfl⟩ := hran.exists_file hf
    exact outcomeOn_eq_overwritten_iff
  · intro f hf
    obtain ⟨g, hg, rfl⟩ := hran.exists_file hf
    exact outcomeOn_eq_skipped_iff
  · intro f hf hskipped loc hloc
    obtain ⟨g, hg, rfl⟩ := hran.exists_file hf
    exact hran.written.untouched hran.laid hg hskipped hloc
  · refine ⟨_, rfl, Manifest.files?_rules _ _, ?_⟩
    exact fun f hf hpath => hran.held hf hran.planned.rulesList hpath
  · refine ⟨_, rfl, Manifest.files?_commands _ _, ?_⟩
    exact fun f hf hpath => hran.held hf hran.planned.commandsList hpath

end Effect

/-- A workspace without core rules and without a list of its rules gets both of them. -/
theorem effect_of_generate_started :
    (started [("level2-architecture.mdc", .file "".toUTF8)]).Rooted "ws" ["ws"] ∧
      ∃ d', (generate [.directory "t"] ⟨false, false, []⟩ "ws" .empty).runOn
          (started [("level2-architecture.mdc", .file "".toUTF8)]) =
            (.ok (completion .created), d') ∧
        Effect [.directory "t"] ⟨false, false, []⟩ (Engine.standard.normalize .empty) ["ws"]
          (started [("level2-architecture.mdc", .file "".toUTF8)]) d' (completion .created) := by
  obtain ⟨d', hrun⟩ := Stateful.exists_runOn_eq generate_started
  exact ⟨rooted_started _, d', hrun, effect_of_generate (rooted_started _) hrun⟩

end WorkspaceTemplates.Generate

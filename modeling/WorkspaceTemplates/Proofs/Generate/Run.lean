/-
  WorkspaceTemplates/Proofs/Generate/Run.lean
  ===========================================
  **Generations that succeed.**

  A generation that succeeds has planned its files on the disk as it was, and has
  written all of them (`Ran`).  What it reports of a place is the entry of the one
  file that was planned there.
-/
import WorkspaceTemplates.Proofs.Generate.Plan

namespace WorkspaceTemplates.Generate

open Disk (Rooted)
open WorkspaceTemplates.Path (segments)

theorem levels_sublist (ctx : Context) (forced : List Level) :
    (Selection.levels ctx forced).Sublist Level.all := List.filter_sublist

theorem commands_sublist (ctx : Context) : (Selection.commands ctx).Sublist Command.all :=
  List.filter_sublist

/-- Some files are the plan for a complete context, were written, and are what is reported. -/
structure Ran (layers : List TemplateLayer) (options : GenerateOptions) (root : String)
    (ctx : Context) (base : Location) (d d' : Disk) (report : Report)
    (files : List PlannedFile) : Prop where
  planned : Planned d layers root ctx (Selection.levels ctx options.forced)
    (Selection.commands ctx) files
  laid : Laid root files
  entries : report.files = files.map (entryOn d base options.overwrite)
  written : Written base options.overwrite files d d'

section Run

variable {layers : List TemplateLayer} {options : GenerateOptions} {root : String} {ctx : Context}
  {base : Location} {d d' : Disk} {report : Report} {files : List PlannedFile}

/-- A generation that succeeds has planned its files on the disk as it was and written all of
them. -/
theorem writeAll_of_generate (h : (generate layers options root ctx).runOn d = (.ok report, d')) :
    ∃ files, plan d layers options root (Engine.standard.normalize ctx) = .ok files ∧
      (writeAll options.overwrite files).runOn d = (.ok report.files, d') := by
  rw [generate] at h
  obtain ⟨files, d₁, hplan, h⟩ := Stateful.runOn_bind_eq_ok_iff.1 h
  rw [DiskM.runOn_demand] at hplan
  obtain ⟨hfiles, rfl⟩ := Prod.mk.inj hplan
  obtain ⟨entries, d₂, hwrite, hreturn⟩ := Stateful.runOn_bind_eq_ok_iff.1 h
  cases hreturn
  exact ⟨files, hfiles, hwrite⟩

/-- A generation that succeeds below a directory has run. -/
theorem ran_of_generate (hroot : d.Rooted root base)
    (h : (generate layers options root ctx).runOn d = (.ok report, d')) :
    ∃ files, Ran layers options root (Engine.standard.normalize ctx) base d d' report files := by
  obtain ⟨files, hplan, hwrite⟩ := writeAll_of_generate h
  have hplanned := plan_eq_ok hplan
  have hlaid := hplanned.laid (levels_sublist _ _) (commands_sublist _)
  obtain ⟨hentries, hwritten⟩ := runOn_writeAll hroot hlaid hwrite
  exact ⟨files, hplanned, hlaid, hentries, hwritten⟩

theorem keeps_of_generate (hroot : d.Rooted root base)
    (h : (generate layers options root ctx).runOn d = (.ok report, d')) : Disk.Keeps d d' := by
  obtain ⟨files, hran⟩ := ran_of_generate hroot h
  exact hran.written.keeps

namespace Ran

variable (h : Ran layers options root ctx base d d' report files)

include h

theorem paths : report.files.map (·.path) =
    places (Selection.levels ctx options.forced) (Selection.commands ctx) := by
  rw [h.entries, List.map_map, ← h.planned.labels]
  rfl

theorem entry_mem {g : PlannedFile} (hg : g ∈ files) :
    entryOn d base options.overwrite g ∈ report.files := by
  rw [h.entries]
  exact List.mem_map_of_mem hg

theorem exists_file {f : GeneratedFile} (hf : f ∈ report.files) :
    ∃ g ∈ files, entryOn d base options.overwrite g = f := by
  rw [h.entries] at hf
  exact List.mem_map.1 hf

/-- The entry of a place is that of the file that was planned there. -/
theorem eq_entryOn {f : GeneratedFile} {g : PlannedFile} (hf : f ∈ report.files) (hg : g ∈ files)
    (hpath : f.path = g.label) : f = entryOn d base options.overwrite g := by
  obtain ⟨g', hg', rfl⟩ := h.exists_file hf
  rw [h.laid.eq_of_label hg' hg hpath]

theorem label_mem {g : PlannedFile} (hg : g ∈ files) :
    g.label ∈ places (Selection.levels ctx options.forced) (Selection.commands ctx) := by
  rw [← h.planned.labels]
  exact List.mem_map_of_mem hg

end Ran

end Run

/-! ### A workspace that lacks some rules -/

/-- A disk with short templates in one directory and, in another one, a workspace that has all of
its files but for some of the rules. -/
def started (rules : List (String × Tree)) : Disk where
  tree := .folder
    [("t", .folder
        [(".cursor", .folder
            [("AGENTS.md.template", .file "a".toUTF8),
              ("commands", .folder [("build-commands.mdc.template", .file "b".toUTF8)]),
              ("rules", .folder
                [("level1-core.mdc.template", .file "<PLACEHOLDER: TEAM>".toUTF8),
                  ("level2-architecture.mdc.template", .file "".toUTF8)])]),
          (".cursorrules.template", .file "".toUTF8)]),
      ("ws", .folder
        [(".cursor", .folder
            [("AGENTS.md", .file "".toUTF8),
              ("commands", .folder
                [("build-commands.mdc", .file "".toUTF8),
                  ("commands_manifest.json", .file "".toUTF8)]),
              ("rules", .folder rules)]),
          (".cursorrules", .file "".toUTF8)])]
  workDir := []

/-- What is reported when the workspace is completed without replacing anything. -/
def completion (manifest : WriteOutcome) : Report where
  files :=
    [⟨".cursorrules", .skipped, []⟩,
      ⟨".cursor/rules/level1-core.mdc", .created, ["TEAM"]⟩,
      ⟨".cursor/rules/level2-architecture.mdc", .skipped, []⟩,
      ⟨".cursor/commands/build-commands.mdc", .skipped, []⟩,
      ⟨".cursor/AGENTS.md", .skipped, []⟩,
      ⟨".cursor/rules/rules_manifest.json", manifest, []⟩,
      ⟨".cursor/commands/commands_manifest.json", .skipped, []⟩]

theorem rooted_started (rules : List (String × Tree)) : (started rules).Rooted "ws" ["ws"] :=
  Rooted.of_name (by decide) (by decide +kernel) rfl

/-- Without a list of the rules, the core rules and the list are made. -/
theorem generate_started :
    ((generate [.directory "t"] ⟨false, false, []⟩ "ws" .empty).runOn
      (started [("level2-architecture.mdc", .file "".toUTF8)])).1 =
        .ok (completion .created) := by decide +kernel

end WorkspaceTemplates.Generate

/-
  WorkspaceTemplates/Proofs/Generate/Listing.lean
  ===============================================
  **Which files the lists on the disk name.**

  A list is written like every other file, so with files that are not replaced it
  may be older than the files beside it.  A list that is written names every rule
  and every command that the same generation wrote; one that was there and is kept
  says what it said before, which need not be so.
-/
import WorkspaceTemplates.Proofs.Generate.Run
import WorkspaceTemplates.Proofs.Manifest

namespace WorkspaceTemplates.Generate

open Disk (Rooted)
open WorkspaceTemplates.Path (segments)

/-- The names and the paths of the files that the list at a place has under a key.  What is no list
has none. -/
def listedAt (d : Disk) (base : Location) (place key : String) : List (String × String) :=
  match d.tree.kindAt? (base ++ segments place) with
  | some (.file content) => ((String.fromUTF8? content).bind (Manifest.files? key)).getD []
  | _ => []

section Listing

variable {layers : List TemplateLayer} {options : GenerateOptions} {root : String} {ctx : Context}
  {base : Location} {d d' : Disk} {report : Report} {files : List PlannedFile}
  {place key text : String}

theorem listedAt_of_kindAt?
    (h : d.tree.kindAt? (base ++ segments place) = some (.file text.toUTF8)) :
    listedAt d base place key = (Manifest.files? key text).getD [] := by
  have hdecode : String.fromUTF8? text.toUTF8 = some text := dif_pos text.isValidUTF8
  rw [listedAt, h]
  simp only [hdecode, Option.bind_some]

theorem listedAt_congr
    (h : d'.tree.kindAt? (base ++ segments place) = d.tree.kindAt? (base ++ segments place)) :
    listedAt d' base place key = listedAt d base place key := by
  rw [listedAt, listedAt, h]

namespace Ran

variable (h : Ran layers options root ctx base d d' report files)

include h

theorem list_held {manifest : Json} (hlist : listed root place manifest ∈ files)
    (hfree : options.overwrite = true ∨ d.tree.kindAt? (base ++ segments place) = none) :
    d'.tree.kindAt? (base ++ segments place) =
      some (.file (Manifest.text manifest).toUTF8) := by
  apply h.written.held _ hlist
  intro hskipped
  obtain ⟨hthere, hoff⟩ := outcomeOn_eq_skipped_iff.1 hskipped
  rcases hfree with hon | hnone
  · rw [hon] at hoff
    cases hoff
  · exact hthere hnone

/-- A list that is there is kept when files are not replaced. -/
theorem list_kept {manifest : Json} (hlist : listed root place manifest ∈ files)
    (hthere : d.tree.kindAt? (base ++ segments place) ≠ none) (hoff : options.overwrite = false) :
    d'.tree.kindAt? (base ++ segments place) = d.tree.kindAt? (base ++ segments place) := by
  have hskipped : outcomeOn d base options.overwrite (listed root place manifest) = .skipped :=
    outcomeOn_eq_skipped_iff.2 ⟨hthere, hoff⟩
  exact h.written.skipped (listed root place manifest) hlist hskipped

theorem template_mem {f : GeneratedFile} {t : Template} (hf : f ∈ report.files)
    (hpath : f.path = t.target) :
    t ∈ templates (Selection.levels ctx options.forced) (Selection.commands ctx) := by
  apply mem_templates_of_target_mem_places
  rw [← hpath, ← h.paths]
  exact List.mem_map_of_mem hf

end Ran

theorem rule_mem_templates_iff {levels : List Level} {kinds : List Command} {l : Level} :
    Template.rule l ∈ templates levels kinds ↔ l ∈ levels := by
  simp [templates]

theorem command_mem_templates_iff {levels : List Level} {kinds : List Command} {c : Command} :
    Template.command c ∈ templates levels kinds ↔ c ∈ kinds := by
  simp [templates]

namespace Ran

variable (h : Ran layers options root ctx base d d' report files)

include h

theorem rule_mem_listedAt {f : GeneratedFile} {l : Level} (hf : f ∈ report.files)
    (hpath : f.path = Layout.rule l)
    (hfree : options.overwrite = true ∨
      d.tree.kindAt? (base ++ segments Layout.rulesManifest) = none) :
    (l.fileName, f.path) ∈ listedAt d' base Layout.rulesManifest "rules" := by
  have hlevel := rule_mem_templates_iff.1 (h.template_mem (t := .rule l) hf hpath)
  rw [listedAt_of_kindAt? (h.list_held h.planned.rulesList hfree), Manifest.files?_rules,
    Option.getD_some, hpath]
  exact List.mem_map_of_mem (f := fun l : Level => (l.fileName, Layout.rule l)) hlevel

theorem command_mem_listedAt {f : GeneratedFile} {c : Command} (hf : f ∈ report.files)
    (hpath : f.path = Layout.command c)
    (hfree : options.overwrite = true ∨
      d.tree.kindAt? (base ++ segments Layout.commandsManifest) = none) :
    (c.fileName, f.path) ∈ listedAt d' base Layout.commandsManifest "commands" := by
  have hkind := command_mem_templates_iff.1 (h.template_mem (t := .command c) hf hpath)
  rw [listedAt_of_kindAt? (h.list_held h.planned.commandsList hfree), Manifest.files?_commands,
    Option.getD_some, hpath]
  exact List.mem_map_of_mem (f := fun c : Command => (c.fileName, Layout.command c)) hkind

end Ran

/-- After a generation that succeeds, the list of the rules names every rule that is reported, and
the list of the commands every command, unless the list was there and is not replaced: then it is
kept as it was. -/
theorem listed_of_generate (hroot : d.Rooted root base)
    (h : (generate layers options root ctx).runOn d = (.ok report, d')) :
    (options.overwrite = true ∨ d.tree.kindAt? (base ++ segments Layout.rulesManifest) = none →
      ∀ f ∈ report.files, ∀ l, f.path = Layout.rule l →
        (l.fileName, f.path) ∈ listedAt d' base Layout.rulesManifest "rules") ∧
    (options.overwrite = true ∨
        d.tree.kindAt? (base ++ segments Layout.commandsManifest) = none →
      ∀ f ∈ report.files, ∀ c, f.path = Layout.command c →
        (c.fileName, f.path) ∈ listedAt d' base Layout.commandsManifest "commands") ∧
    ∀ place ∈ [Layout.rulesManifest, Layout.commandsManifest],
      options.overwrite = false → d.tree.kindAt? (base ++ segments place) ≠ none →
        d'.tree.kindAt? (base ++ segments place) = d.tree.kindAt? (base ++ segments place) := by
  obtain ⟨files, hran⟩ := ran_of_generate hroot h
  refine ⟨?_, ?_, ?_⟩
  · intro hfree f hf l hpath
    exact hran.rule_mem_listedAt hf hpath hfree
  · intro hfree f hf c hpath
    exact hran.command_mem_listedAt hf hpath hfree
  · intro place hplace hoff hthere
    rcases List.mem_pair.1 hplace with rfl | rfl
    · exact hran.list_kept hran.planned.rulesList hthere hoff
    · exact hran.list_kept hran.planned.commandsList hthere hoff

end Listing

/-- The list that is made for a workspace without one names the core rules. -/
theorem listed_of_generate_started :
    (started [("level2-architecture.mdc", .file "".toUTF8)]).Rooted "ws" ["ws"] ∧
      ∃ d', (generate [.directory "t"] ⟨false, false, []⟩ "ws" .empty).runOn
          (started [("level2-architecture.mdc", .file "".toUTF8)]) =
            (.ok (completion .created), d') ∧
        (Level.core.fileName, ".cursor/rules/level1-core.mdc") ∈
          listedAt d' ["ws"] Layout.rulesManifest "rules" := by
  obtain ⟨d', hrun⟩ := Stateful.exists_runOn_eq generate_started
  have hrules := (listed_of_generate (rooted_started _) hrun).1 (.inr (by decide +kernel))
  have hentry : ⟨".cursor/rules/level1-core.mdc", .created, ["TEAM"]⟩ ∈
      (completion .created).files := by simp [completion]
  exact ⟨rooted_started _, d', hrun, hrules _ hentry .core (by decide +kernel)⟩

/-- A workspace whose list of its rules names none of them, and which has no core rules. -/
def outdated : Disk :=
  started
    [("level2-architecture.mdc", .file "".toUTF8),
      ("rules_manifest.json", .file "\x7b\"rules\": []\x7d\n".toUTF8)]

theorem generate_outdated :
    ((generate [.directory "t"] ⟨false, false, []⟩ "ws" .empty).runOn outdated).1 =
      .ok (completion .skipped) := by decide +kernel

/-- The list that was there is kept, so it does not name the core rules that are made beside it. -/
theorem exists_created_not_listed :
    outdated.Rooted "ws" ["ws"] ∧
      ∃ report d', (generate [.directory "t"] ⟨false, false, []⟩ "ws" .empty).runOn outdated =
          (.ok report, d') ∧
        ∃ f ∈ report.files, f.path = Layout.rule .core ∧ f.outcome = .created ∧
          (Level.core.fileName, f.path) ∉ listedAt d' ["ws"] Layout.rulesManifest "rules" := by
  obtain ⟨d', hrun⟩ := Stateful.exists_runOn_eq generate_outdated
  obtain ⟨files, hran⟩ := ran_of_generate (rooted_started _) hrun
  have hkept := hran.list_kept hran.planned.rulesList (by decide +kernel) rfl
  refine ⟨rooted_started _, _, d', hrun, ⟨".cursor/rules/level1-core.mdc", .created, ["TEAM"]⟩,
    by simp [completion], by decide +kernel, rfl, ?_⟩
  rw [listedAt_congr hkept]
  decide +kernel

end WorkspaceTemplates.Generate

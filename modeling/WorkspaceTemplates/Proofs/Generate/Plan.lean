/-
  WorkspaceTemplates/Proofs/Generate/Plan.lean
  ============================================
  **What is planned, and where.**

  The places of a plan are a sublist of those of the plan with every level and every
  kind.  So what has to be checked of places is checked once, on that longest list:
  they are ordinary, apart from each other, and stand in one of three directories.
-/
import WorkspaceTemplates.Proofs.Files.Display
import WorkspaceTemplates.Proofs.Generate.Writing

namespace WorkspaceTemplates.Generate

open Disk (Above)
open WorkspaceTemplates.Path (Ordinary segments)

/-! ### Places -/

/-- The places of the files of a workspace, in the order in which they are written. -/
def places (levels : List Level) (kinds : List Command) : List String :=
  Layout.cursorRules :: levels.map Layout.rule ++ kinds.map Layout.command ++
    [Layout.agentsGuide, Layout.rulesManifest, Layout.commandsManifest]

/-- The directories of a workspace. -/
def directories : List String := [Layout.cursorDir, Layout.rulesDir, Layout.commandsDir]

theorem places_eq (levels : List Level) (kinds : List Command) :
    places levels kinds = (templates levels kinds).map Template.target ++
      [Layout.rulesManifest, Layout.commandsManifest] := by
  simp only [places, templates, List.map_append, List.map_cons, List.map_map, List.map_nil,
    List.append_assoc]
  rfl

/-- Where the files of a workspace with every level and every kind stand below its root. -/
def sites : List Location :=
  [[".cursorrules"],
    [".cursor", "rules", "level1-core.mdc"],
    [".cursor", "rules", "level2-architecture.mdc"],
    [".cursor", "rules", "level3-project-type.mdc"],
    [".cursor", "rules", "level4-language.mdc"],
    [".cursor", "rules", "level5-framework.mdc"],
    [".cursor", "commands", "test-commands.mdc"],
    [".cursor", "commands", "build-commands.mdc"],
    [".cursor", "commands", "deploy-commands.mdc"],
    [".cursor", "commands", "docker-commands.mdc"],
    [".cursor", "AGENTS.md"],
    [".cursor", "rules", "rules_manifest.json"],
    [".cursor", "commands", "commands_manifest.json"]]

theorem map_segments_places : (places Level.all Command.all).map segments = sites := by
  decide +kernel

theorem map_segments_directories :
    directories.map segments = [[".cursor"], [".cursor", "rules"], [".cursor", "commands"]] := by
  decide +kernel

section Places

variable {levels : List Level} {kinds : List Command} {p : String}

theorem places_sublist (hlevels : levels.Sublist Level.all) (hkinds : kinds.Sublist Command.all) :
    (places levels kinds).Sublist (places Level.all Command.all) := by
  rw [places, places]
  exact (((hlevels.map Layout.rule).cons_cons _).append (hkinds.map Layout.command)).append
    (List.Sublist.refl _)

theorem segments_mem_sites (hlevels : levels.Sublist Level.all)
    (hkinds : kinds.Sublist Command.all) (hp : p ∈ places levels kinds) : segments p ∈ sites := by
  rw [← map_segments_places]
  exact List.mem_map_of_mem ((places_sublist hlevels hkinds).subset hp)

theorem ordinary_of_mem_places (hlevels : levels.Sublist Level.all)
    (hkinds : kinds.Sublist Command.all) (hp : p ∈ places levels kinds) : Ordinary p := by
  have hall : ∀ q ∈ places Level.all Command.all, Ordinary q := by decide +kernel
  exact hall p ((places_sublist hlevels hkinds).subset hp)

theorem pairwise_apart_places (hlevels : levels.Sublist Level.all)
    (hkinds : kinds.Sublist Command.all) : (places levels kinds).Pairwise Apart := by
  have hsites : sites.Pairwise fun xs ys => ¬ xs <+: ys ∧ ¬ ys <+: xs := by decide
  rw [← map_segments_places, List.pairwise_map] at hsites
  exact hsites.sublist (places_sublist hlevels hkinds)

/-- What is above a place is one of the directories of a workspace. -/
theorem directory_of_above {base loc : Location} (hlevels : levels.Sublist Level.all)
    (hkinds : kinds.Sublist Command.all) (hp : p ∈ places levels kinds)
    (habove : Above base (segments p) loc) :
    ∃ dir ∈ directories, loc = base ++ segments dir := by
  have hsites : ∀ names ∈ sites, ∀ xs ∈ names.dropLast.inits, xs ≠ [] →
      xs ∈ [[".cursor"], [".cursor", "rules"], [".cursor", "commands"]] := by decide
  obtain ⟨xs, ys, hsegs, hxs, hys, rfl⟩ := habove
  have hinit : xs ∈ (segments p).dropLast.inits := by
    rw [List.mem_inits, hsegs, List.dropLast_append_of_ne_nil hys]
    exact List.prefix_append xs ys.dropLast
  have hmem := hsites _ (segments_mem_sites hlevels hkinds hp) xs hinit hxs
  rw [← map_segments_directories] at hmem
  obtain ⟨dir, hdir, rfl⟩ := List.mem_map.1 hmem
  exact ⟨dir, hdir, rfl⟩

theorem exists_place_of_directory {dir : String} (levels : List Level) (kinds : List Command)
    (hdir : dir ∈ directories) :
    ∃ p ∈ places levels kinds, ∃ name, segments p = segments dir ++ [name] := by
  have hall : ∀ e ∈ directories,
      ∃ p ∈ [Layout.agentsGuide, Layout.rulesManifest, Layout.commandsManifest],
        segments p = segments e ++ [(segments p).getLastD ""] := by decide +kernel
  obtain ⟨p, hp, hsegs⟩ := hall dir hdir
  exact ⟨p, List.mem_append_right _ hp, _, hsegs⟩

theorem ordinary_target (t : Template) : Ordinary t.target := by
  apply ordinary_of_mem_places (List.Sublist.refl Level.all) (List.Sublist.refl Command.all)
  rw [places_eq]
  exact List.mem_append_left _ (List.mem_map_of_mem (Template.mem_all t))

theorem nodup_places : (places Level.all Command.all).Nodup := by
  apply (pairwise_apart_places (List.Sublist.refl _) (List.Sublist.refl _)).imp
  intro p q hpq heq
  apply hpq.1
  rw [heq]

theorem target_injective : Function.Injective Template.target := by
  have hnodup := nodup_places
  rw [places_eq] at hnodup
  intro t u htu
  exact List.inj_on_of_nodup_map (List.nodup_append.1 hnodup).1 (Template.mem_all t)
    (Template.mem_all u) htu

/-- A template whose file has a place among others is one of those rendered to them. -/
theorem mem_templates_of_target_mem_places {t : Template} (h : t.target ∈ places levels kinds) :
    t ∈ templates levels kinds := by
  have hnodup := nodup_places
  rw [places_eq] at hnodup
  rw [places_eq] at h
  rcases List.mem_append.1 h with h | h
  · obtain ⟨u, hu, htu⟩ := List.mem_map.1 h
    rw [← target_injective htu]
    exact hu
  · have hfirst := List.mem_map_of_mem (f := Template.target) (Template.mem_all t)
    exact absurd rfl ((List.nodup_append.1 hnodup).2.2 t.target hfirst t.target h)

theorem ordinary_manifest : Ordinary Layout.rulesManifest ∧ Ordinary Layout.commandsManifest := by
  constructor
  · exact ordinary_of_mem_places (List.Sublist.refl Level.all) (List.Sublist.refl Command.all)
      (by simp [places])
  · exact ordinary_of_mem_places (List.Sublist.refl Level.all) (List.Sublist.refl Command.all)
      (by simp [places])

end Places

/-! ### Plans -/

theorem fileAt_of_ordinary {place : String} (h : Ordinary place) (root text : String)
    (missing : List String) :
    fileAt root place text missing = ⟨Path.join root place, place, text, missing⟩ := by
  rw [fileAt, Path.display_join root h]

/-- The file that is planned for a template with some text. -/
def rendered (root : String) (ctx : Context) (t : Template) (text : String) : PlannedFile :=
  let r := Engine.standard.render text ctx
  ⟨Path.join root t.target, t.target, r.output, r.missing⟩

section Plan

variable {disk : Disk} {layers : List TemplateLayer} {options : GenerateOptions} {root : String}
  {ctx : Context} {files : List PlannedFile}

theorem renderTemplate_eq_ok {t : Template} {file : PlannedFile}
    (h : renderTemplate disk layers root ctx t = .ok file) :
    ∃ text, t.demand disk layers = .ok text ∧ file = rendered root ctx t text := by
  rw [renderTemplate] at h
  cases htext : t.demand disk layers with
  | error f =>
    rw [htext] at h
    cases h
  | ok text =>
    rw [htext] at h
    cases h
    exact ⟨text, rfl, fileAt_of_ordinary (ordinary_target t) root _ _⟩

/-- Every template is there, and the files are those rendered from them, in their order. -/
theorem renderAll_eq_ok {ts : List Template} (h : renderAll disk layers root ctx ts = .ok files) :
    files.map (·.label) = ts.map Template.target ∧
      (∀ f ∈ files, f.path = Path.join root f.label) ∧
      ∀ t ∈ ts, ∃ text, t.demand disk layers = .ok text ∧ rendered root ctx t text ∈ files := by
  induction ts generalizing files with
  | nil =>
    cases h
    exact ⟨rfl, nofun, nofun⟩
  | cons t ts ih =>
    rw [renderAll] at h
    cases hfile : renderTemplate disk layers root ctx t with
    | error f =>
      rw [hfile] at h
      cases h
    | ok file =>
      cases hrest : renderAll disk layers root ctx ts with
      | error f =>
        rw [hfile, hrest] at h
        cases h
      | ok rest =>
        rw [hfile, hrest] at h
        cases h
        obtain ⟨text, htext, rfl⟩ := renderTemplate_eq_ok hfile
        obtain ⟨hlabels, hpaths, htexts⟩ := ih hrest
        refine ⟨by rw [List.map_cons, List.map_cons, hlabels]; rfl, ?_, ?_⟩
        · intro f hf
          rcases List.mem_cons.1 hf with rfl | hf
          · rfl
          · exact hpaths f hf
        · intro u hu
          rcases List.mem_cons.1 hu with rfl | hu
          · exact ⟨text, htext, List.mem_cons_self⟩
          · obtain ⟨text', htext', hmem⟩ := htexts u hu
            exact ⟨text', htext', List.mem_cons_of_mem _ hmem⟩

/-- The file that is planned for a list. -/
def listed (root place : String) (manifest : Json) : PlannedFile :=
  ⟨Path.join root place, place, Manifest.text manifest, []⟩

theorem manifests_eq (root : String) (ctx : Context) (levels : List Level)
    (kinds : List Command) :
    manifests root ctx levels kinds =
      [listed root Layout.rulesManifest (Manifest.rules ctx levels),
        listed root Layout.commandsManifest (Manifest.commands ctx kinds)] := by
  rw [manifests, fileAt_of_ordinary ordinary_manifest.1, fileAt_of_ordinary ordinary_manifest.2]
  rfl

/-- What a plan has: its places in order, a rendering for every template, and the lists. -/
structure Planned (disk : Disk) (layers : List TemplateLayer) (root : String) (ctx : Context)
    (levels : List Level) (kinds : List Command) (files : List PlannedFile) : Prop where
  labels : files.map (·.label) = places levels kinds
  path : ∀ f ∈ files, f.path = Path.join root f.label
  rendering : ∀ t ∈ templates levels kinds, ∃ text, t.demand disk layers = .ok text ∧
    rendered root ctx t text ∈ files
  rulesList : listed root Layout.rulesManifest (Manifest.rules ctx levels) ∈ files
  commandsList : listed root Layout.commandsManifest (Manifest.commands ctx kinds) ∈ files

theorem plan_eq_ok (h : plan disk layers options root ctx = .ok files) :
    Planned disk layers root ctx (Selection.levels ctx options.forced) (Selection.commands ctx)
      files := by
  rw [plan] at h
  split at h
  · rename_i first hfirst
    obtain ⟨hlabels, hpaths, htexts⟩ := renderAll_eq_ok hfirst
    split at h
    · cases h
    · cases h
      rw [manifests_eq]
      refine ⟨?_, ?_, ?_, by simp, by simp⟩
      · rw [List.map_append, hlabels, places_eq]
        rfl
      · intro f hf
        rcases List.mem_append.1 hf with hf | hf
        · exact hpaths f hf
        · simp only [List.mem_cons, List.not_mem_nil, or_false] at hf
          rcases hf with rfl | rfl
          · rw [listed]
          · rw [listed]
      · intro t ht
        obtain ⟨text, htext, hmem⟩ := htexts t ht
        exact ⟨text, htext, List.mem_append_left _ hmem⟩
  · cases h

namespace Planned

variable {levels : List Level} {kinds : List Command}

theorem laid (h : Planned disk layers root ctx levels kinds files)
    (hlevels : levels.Sublist Level.all) (hkinds : kinds.Sublist Command.all) :
    Laid root files where
  ordinary f hf := by
    apply ordinary_of_mem_places hlevels hkinds
    rw [← h.labels]
    exact List.mem_map_of_mem hf
  path := h.path
  apart := by
    have hapart := pairwise_apart_places hlevels hkinds
    rw [← h.labels, List.pairwise_map] at hapart
    exact hapart

end Planned

end Plan

end WorkspaceTemplates.Generate

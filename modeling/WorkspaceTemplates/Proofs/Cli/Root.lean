/-
  WorkspaceTemplates/Proofs/Cli/Root.lean
  =======================================
  **The root of a workspace stays where it is.**

  The root is the nearest directory, from the working directory upwards, that holds
  `.cursor`, else the nearest that holds `.git`, else the working directory
  (`IsRoot`).  A generation there makes `.cursor` in the root and no directory of that
  name below it, so whatever the root was found by, it is the nearest one that holds
  `.cursor` afterwards (`resolveRoot_stable`).
-/
import WorkspaceTemplates.Cli.Root
import WorkspaceTemplates.Proofs.Files.Location
import WorkspaceTemplates.Proofs.Generate.Again
import WorkspaceTemplates.Proofs.Generate.Effect

namespace WorkspaceTemplates

open WorkspaceTemplates.Path (Ordinary segments)

/-! ### Markers -/

namespace Disk

/-- A directory holds a directory of a name, the path of which is not refused. -/
def Marked (d : Disk) (marker : String) (place : Location) : Prop :=
  d.tree.kindAt? (place ++ [marker]) = some .dir ∧
    refusal? (Path.join (pathOf place) marker) = none

theorem isDir_join_iff_marked {d : Disk} {marker : String} {place : Location}
    (h : d.Rooted (pathOf place) place) (hmarker : Ordinary marker)
    (hsegs : segments marker = [marker]) :
    d.isDir (Path.join (pathOf place) marker) = true ↔ d.Marked marker place := by
  rw [isDir_eq_true_iff]
  constructor
  · rintro ⟨loc, hloc, hdir⟩
    obtain ⟨href, rfl⟩ := h.eq_of_locate_join hmarker hloc
    rw [hsegs] at hdir
    exact ⟨hdir, href⟩
  · rintro ⟨hdir, href⟩
    rw [← hsegs] at hdir
    exact ⟨_, h.locate_join hmarker href (by rw [hdir]; exact nofun), hdir⟩

end Disk

namespace Cli

open Disk (Rooted pathOf)

/-! ### The nearest directory upwards -/

/-- A location is the nearest one, from another one upwards, that has a property. -/
structure Nearest (P : Location → Prop) (start place : Location) : Prop where
  above : place <+: start
  holds : P place
  nearest : ∀ a, a <+: start → P a → a <+: place

theorem Nearest.unique {P : Location → Prop} {start place place' : Location}
    (h : Nearest P start place) (h' : Nearest P start place') : place = place' :=
  (h'.nearest place h.above h.holds).eq_of_length_le
    (h.nearest place' h'.above h'.holds).length_le

theorem upwards_concat (place : Location) (name : String) :
    upwards (place ++ [name]) = (place ++ [name]) :: upwards place := by
  rw [upwards, upwards, List.range_succ_eq_map, List.map_cons, List.map_map]
  congr 1
  · exact List.take_of_length_le (Nat.le_refl _)
  · rw [List.length_append, List.length_singleton]
    apply List.map_congr_left
    intro n hn
    rw [Function.comp_apply, Nat.succ_eq_add_one, Nat.add_sub_add_right,
      List.take_append_of_le_length (Nat.sub_le _ _)]

/-- Looking upwards finds the nearest location, unless there is none at all. -/
theorem find?_upwards (p : Location → Bool) (start : Location) :
    match (upwards start).find? p with
    | some place => Nearest (fun a => p a = true) start place
    | none => ∀ a, a <+: start → ¬ p a = true := by
  induction start using List.reverseRecOn with
  | nil =>
    have hup : upwards [] = [[]] := rfl
    rw [hup]
    cases hp : p [] with
    | true =>
      rw [List.find?_cons_of_pos hp]
      exact ⟨List.prefix_refl _, hp, fun a ha _ => ha⟩
    | false =>
      rw [List.find?_cons_of_neg (by simp [hp])]
      intro a ha
      rw [List.prefix_nil.1 ha, hp]
      exact Bool.false_ne_true
  | append_singleton start name ih =>
    rw [upwards_concat]
    by_cases hp : p (start ++ [name]) = true
    · rw [List.find?_cons_of_pos hp]
      exact ⟨List.prefix_refl _, hp, fun a ha _ => ha⟩
    · rw [List.find?_cons_of_neg hp]
      have hcases : ∀ a, a <+: start ++ [name] → p a = true → a <+: start := by
        intro a ha hpa
        rcases List.prefix_concat_iff.1 ha with rfl | ha
        · exact absurd hpa hp
        · exact ha
      cases hfind : (upwards start).find? p with
      | some place =>
        rw [hfind] at ih
        exact ⟨ih.above.trans (List.prefix_append _ _), ih.holds,
          fun a ha hpa => ih.nearest a (hcases a ha hpa) hpa⟩
      | none =>
        rw [hfind] at ih
        exact fun a ha hpa => ih a (hcases a ha hpa) hpa

/-! ### The root -/

/-- A location is the root of a workspace, seen from a working directory. -/
def IsRoot (d : Disk) (start place : Location) : Prop :=
  Nearest (d.Marked ".cursor") start place ∨
    (∀ a, a <+: start → ¬ d.Marked ".cursor" a) ∧
      (Nearest (d.Marked ".git") start place ∨
        (∀ a, a <+: start → ¬ d.Marked ".git" a) ∧ place = start)

section Root

variable {d d' : Disk} {start place : Location}

theorem IsRoot.above (h : IsRoot d start place) : place <+: start := by
  rcases h with h | ⟨-, h | ⟨-, rfl⟩⟩
  · exact h.above
  · exact h.above
  · exact List.prefix_refl _

/-- Nothing between the root and the working directory holds `.cursor`. -/
theorem IsRoot.not_marked (h : IsRoot d start place) {a : Location} (ha : a <+: start)
    (hmarked : d.Marked ".cursor" a) : a <+: place := by
  rcases h with h | ⟨hnone, -⟩
  · exact h.nearest a ha hmarked
  · exact absurd hmarked (hnone a ha)

/-- Looking upwards for a marker, on a disk whose working directory is reached by its own path. -/
theorem findUpward_spec (hplaced : d.WellPlaced) {marker : String} (hmarker : Ordinary marker)
    (hsegs : segments marker = [marker]) :
    match findUpward d d.workDir marker with
    | some place => Nearest (d.Marked marker) d.workDir place
    | none => ∀ a, a <+: d.workDir → ¬ d.Marked marker a := by
  have hmarked : ∀ a, a <+: d.workDir →
      (d.isDir (Path.join (pathOf a) marker) = true ↔ d.Marked marker a) :=
    fun a ha => Disk.isDir_join_iff_marked (Rooted.of_prefix hplaced ha) hmarker hsegs
  have hspec := find?_upwards (fun l => d.isDir (Path.join (pathOf l) marker)) d.workDir
  rw [findUpward]
  split at hspec
  · exact ⟨hspec.above, (hmarked _ hspec.above).1 hspec.holds,
      fun a ha h => hspec.nearest a ha ((hmarked a ha).2 h)⟩
  · exact fun a ha h => hspec a ha ((hmarked a ha).2 h)

theorem isRoot_detectRoot (hplaced : d.WellPlaced) : IsRoot d d.workDir (detectRoot d) := by
  have hcursor := findUpward_spec hplaced (by decide +kernel : Ordinary ".cursor")
    (by decide +kernel)
  have hgit := findUpward_spec hplaced (by decide +kernel : Ordinary ".git") (by decide +kernel)
  rw [detectRoot, Layout.cursorDir]
  cases hfind : findUpward d d.workDir ".cursor" with
  | some place =>
    rw [hfind] at hcursor
    exact .inl hcursor
  | none =>
    rw [hfind] at hcursor
    cases hfind' : findUpward d d.workDir ".git" with
    | some place =>
      rw [hfind'] at hgit
      exact .inr ⟨hcursor, .inl hgit⟩
    | none =>
      rw [hfind'] at hgit
      exact .inr ⟨hcursor, .inr ⟨hgit, rfl⟩⟩

/-- There is one root for each working directory. -/
theorem detectRoot_of_nearest (hplaced : d.WellPlaced)
    (h : Nearest (d.Marked ".cursor") d.workDir place) : detectRoot d = place := by
  rcases isRoot_detectRoot hplaced with hroot | ⟨hnone, -⟩
  · exact hroot.unique h
  · exact absurd h.holds (hnone place h.above)

end Root

end Cli

/-! ### The root after a generation -/

namespace Generate

open Cli (IsRoot detectRoot detectRoot_of_nearest isRoot_detectRoot resolveRoot)
open Disk (Rooted pathOf)

section Generate

variable {layers : List TemplateLayer} {options : GenerateOptions} {ctx : Context} {d d' : Disk}
  {place : Location} {report : Report}

/-- A generation leaves a directory `.cursor` in its root. -/
theorem marked_of_generate (hroot : d.Rooted (pathOf place) place)
    (h : (generate layers options (pathOf place) ctx).runOn d = (.ok report, d')) :
    d'.Marked ".cursor" place := by
  have hkept : d'.Rooted (pathOf place) place :=
    hroot.keeps (keeps_of_generate hroot h)
  have hguide : Layout.agentsGuide ∈
      places (Selection.levels (Engine.standard.normalize ctx) options.forced)
        (Selection.commands (Engine.standard.normalize ctx)) := by simp [places]
  have hthere := exists?_of_generate h hguide
  rw [← Disk.isDir_join_iff_marked hkept (by decide +kernel) (by decide +kernel)]
  obtain ⟨front, hfront⟩ := Path.exists_join_eq (pathOf place)
  have hsplit : Layout.agentsGuide = ".cursor" ++ "/" ++ "AGENTS.md" := by decide
  rw [hfront _ (by decide +kernel), hsplit, ← String.append_assoc, ← String.append_assoc]
    at hthere
  rw [hfront _ (by decide +kernel)]
  exact Disk.isDir_of_exists? (by simp) hthere

/-- A generation makes no directory `.cursor` anywhere else. -/
theorem marked_before_generate (hroot : d.Rooted (pathOf place) place)
    (h : (generate layers options (pathOf place) ctx).runOn d = (.ok report, d'))
    {rest : Location} (hrest : rest ≠ []) (hmarked : d'.Marked ".cursor" (place ++ rest)) :
    d.Marked ".cursor" (place ++ rest) := by
  obtain ⟨files, hran⟩ := ran_of_generate hroot h
  have hlast : ∀ names ∈ sites, names.getLast? ≠ some ".cursor" := by decide
  have hdirs : ∀ names ∈ directories.map segments, names.getLast? = some ".cursor" →
      names = [".cursor"] := by
    rw [map_segments_directories]
    decide
  have hnames (names : Location) (heq : place ++ rest ++ [".cursor"] = place ++ names) :
      names = rest ++ [".cursor"] := by
    rw [List.append_assoc] at heq
    exact (List.append_cancel_left heq).symm
  have hother : ∀ f ∈ report.files, place ++ rest ++ [".cursor"] ≠ place ++ segments f.path := by
    intro f hf heq
    have hpath : segments f.path ∈ sites := by
      apply segments_mem_sites (levels_sublist _ _) (commands_sublist _)
      rw [← hran.paths]
      exact List.mem_map_of_mem hf
    apply hlast _ hpath
    rw [hnames _ heq, List.getLast?_concat]
  refine ⟨?_, hmarked.2⟩
  rcases hran.frame hother with hsame | ⟨-, -, dir, hdir, heq⟩
  · rw [← hsame]
    exact hmarked.1
  · have hsegs := hnames _ heq
    have hcursor := hdirs _ (List.mem_map_of_mem hdir) (by rw [hsegs, List.getLast?_concat])
    rw [hsegs] at hcursor
    exact absurd (List.append_eq_singleton_iff.1 hcursor) (by simp [hrest])

/-- **The root that is found stays the root after a generation there**, seen from every directory on
the way to the working directory. -/
theorem resolveRoot_stable (hplaced : d.WellPlaced) :
    IsRoot d d.workDir (detectRoot d) ∧ resolveRoot d none = pathOf (detectRoot d) ∧
      ∀ layers options ctx report d',
        (generate layers options (resolveRoot d none) ctx).runOn d = (.ok report, d') →
        ∀ start, detectRoot d <+: start → start <+: d.workDir →
          resolveRoot { d' with workDir := start } none = resolveRoot d none := by
  have hisRoot := isRoot_detectRoot hplaced
  refine ⟨hisRoot, rfl, ?_⟩
  intro layers options ctx report d' h start hle hstart
  have hroot : d.Rooted (pathOf (detectRoot d)) (detectRoot d) :=
    Rooted.of_prefix hplaced hisRoot.above
  have hkeeps := keeps_of_generate hroot h
  have hplaced' : ({ d' with workDir := start } : Disk).WellPlaced := by
    have hrooted := (Rooted.of_prefix hplaced hstart).keeps hkeeps
    exact Disk.rooted_pathOf (Disk.nameable_of_rooted hrooted) hrooted.dir
  have hmade := marked_of_generate hroot h
  rw [resolveRoot, resolveRoot, detectRoot_of_nearest hplaced']
  refine ⟨hle, hmade, ?_⟩
  intro a ha hmarked
  have ha' : a <+: d.workDir := ha.trans hstart
  rcases List.prefix_or_prefix_of_prefix ha' hisRoot.above with hbelow | ⟨rest, rfl⟩
  · exact hbelow
  · by_cases hrest : rest = []
    · rw [hrest, List.append_nil]
    · exact hisRoot.not_marked ha' (marked_before_generate hroot h hrest hmarked)

end Generate

/-- A repository without rules, and short templates outside.  The working directory is that of its
sources, in which a file is named `.cursor`. -/
def repository : Disk where
  tree := .folder
    [("t", ((started []).tree.find? ["t"]).getD Tree.emptyDir),
      ("ws", .folder [(".git", .folder []), ("src", .folder [(".cursor", .file "".toUTF8)])])]
  workDir := ["ws", "src"]

/-- The top of the repository is the root, and stays it when rules are generated there. -/
theorem resolveRoot_repository :
    repository.WellPlaced ∧ IsRoot repository ["ws", "src"] ["ws"] ∧
      resolveRoot repository none = "/ws" ∧
      ∃ report d', (generate [.directory "/t"] ⟨false, true, []⟩ "/ws" .empty).runOn repository =
          (.ok report, d') ∧
        resolveRoot { d' with workDir := ["ws", "src"] } none = "/ws" ∧
        resolveRoot { d' with workDir := ["ws"] } none = "/ws" := by
  have hnames : ∀ s ∈ ["ws", "src"], Disk.Nameable s := by
    simp only [List.forall_mem_cons, Disk.Nameable]
    decide +kernel
  have hplaced : repository.WellPlaced := Disk.rooted_pathOf hnames rfl
  have hroot : detectRoot repository = ["ws"] := by decide +kernel
  have hpath : resolveRoot repository none = "/ws" := by decide +kernel
  obtain ⟨hisRoot, -, hstable⟩ := resolveRoot_stable hplaced
  rw [hroot] at hisRoot hstable
  rw [hpath] at hstable
  have hsuccess : ((generate [.directory "/t"] ⟨false, true, []⟩ "/ws" .empty).runOn
      repository).1.toOption.isSome = true := by decide +kernel
  rcases hrun : (generate [.directory "/t"] ⟨false, true, []⟩ "/ws" .empty).runOn repository with
    ⟨f | report, d'⟩
  · rw [hrun] at hsuccess
    cases hsuccess
  · refine ⟨hplaced, hisRoot, hpath, report, d', rfl, ?_, ?_⟩
    · exact hstable _ _ _ _ _ hrun _ (by decide) (List.prefix_refl _)
    · exact hstable _ _ _ _ _ hrun _ (List.prefix_refl _) (by decide)

end Generate

end WorkspaceTemplates

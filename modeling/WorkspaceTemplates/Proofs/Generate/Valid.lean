/-
  WorkspaceTemplates/Proofs/Generate/Valid.lean
  =============================================
  **A generated workspace passes its inspection.**

  Into an empty directory every file of the plan is written, so each is there with
  its text afterwards, and the files of a section's directory are no others.  The
  builtin templates lack no value and leave no token, the lists are read back as
  they were written, and the inspection looks at nothing else.
-/
import WorkspaceTemplates.Proofs.Generate.Effect
import WorkspaceTemplates.Proofs.Generate.Strict
import WorkspaceTemplates.Proofs.Generate.Success
import WorkspaceTemplates.Proofs.Inspection
import WorkspaceTemplates.Proofs.Template.Builtin

namespace WorkspaceTemplates.Generate

open Disk (Rooted)
open Inspection
open WorkspaceTemplates.Path (Ordinary segments)

/-- A root leads to an empty directory, and the paths of a workspace below it are not refused. -/
structure EmptyRoot (d : Disk) (root : String) (base : Location) : Prop where
  rooted : d.Rooted root base
  empty : d.tree.find? base = some Tree.emptyDir
  wellPlaced : d.WellPlaced
  takes : ∀ p ∈ places Level.all Command.all, d.Takes (Path.join root p)

theorem EmptyRoot.vacant {d : Disk} {root : String} {base : Location} (h : EmptyRoot d root base)
    {names : List String} (hne : names ≠ []) : d.tree.kindAt? (base ++ names) = none := by
  obtain ⟨name, names, rfl⟩ := List.exists_cons_of_ne_nil hne
  rw [Tree.kindAt?_append, h.empty]
  rfl

theorem EmptyRoot.rawAt_eq_nil {d : Disk} {root : String} {base : Location}
    (h : EmptyRoot d root base) (names : List String) : d.tree.rawAt (base ++ names) = [] := by
  rw [Tree.rawAt, Tree.find?_append, h.empty, Option.bind_some]
  exact Tree.rawAt_emptyDir names

/-! ### The run -/

section Run

variable {d : Disk} {root : String} {base : Location}

/-- With the builtin templates there is a plan in either mode. -/
theorem plan_builtin (d : Disk) (options : GenerateOptions) (root : String) (ctx : Context) :
    plan d [.builtin] options root ctx =
      .ok ((templates (Selection.levels ctx options.forced) (Selection.commands ctx)).map
          (fun t => rendered root ctx t t.builtinText) ++
        manifests root ctx (Selection.levels ctx options.forced) (Selection.commands ctx)) := by
  obtain ⟨strict, overwrite, forced⟩ := options
  have htext : ∀ t ∈ templates (Selection.levels ctx forced) (Selection.commands ctx),
      t.demand d [.builtin] = .ok t.builtinText := fun _ _ => rfl
  have hlenient : plan d [.builtin] ⟨false, overwrite, forced⟩ root ctx = _ :=
    plan_lenient (renderAll_of_demand htext)
  cases strict with
  | false => exact hlenient
  | true =>
    rw [← hlenient]
    exact plan_strict_of_complete fun t ht =>
      ⟨htext t ht, Template.missing_render_builtinText t ctx⟩

/-- **Generating into an empty directory succeeds.** -/
theorem exists_generate_builtin (h : EmptyRoot d root base) (options : GenerateOptions)
    (ctx : Context) :
    ∃ report d', (generate [.builtin] options root ctx).runOn d = (.ok report, d') := by
  have hplan := plan_builtin d options root (Engine.standard.normalize ctx)
  have hplanned := plan_eq_ok hplan
  have hlaid := hplanned.laid (levels_sublist _ _) (commands_sublist _)
  obtain ⟨entries, d', hwrite⟩ := exists_writeAll options.overwrite h.rooted h.wellPlaced hlaid
    (by
      intro f hf
      rw [hlaid.path f hf]
      apply h.takes
      apply (places_sublist (levels_sublist _ _) (commands_sublist _)).subset
      rw [← hplanned.labels]
      exact List.mem_map_of_mem hf)
    (by
      intro f _
      refine ⟨?_, ?_⟩
      · intro xs _ content
        cases xs with
        | nil =>
          rw [List.append_nil, h.rooted.dir]
          exact nofun
        | cons x xs =>
          rw [h.vacant (List.cons_ne_nil x xs)]
          exact nofun
      · rw [h.vacant (Path.segments_ne_nil _)]
        exact nofun)
  refine ⟨⟨entries⟩, d', ?_⟩
  rw [generate, Stateful.runOn_bind, DiskM.runOn_demand, hplan]
  simp only [Stateful.runOn_bind, hwrite]
  rfl

end Run

theorem cursorRules_mem_templates (levels : List Level) (kinds : List Command) :
    .cursorRules ∈ templates levels kinds := by
  simp [templates]

theorem ordinary_directory {dir : String} (h : dir ∈ directories) : Ordinary dir := by
  have hall : ∀ e ∈ directories, Ordinary e := by decide +kernel
  exact hall dir h

/-! ### What is there afterwards -/

section Afterwards

variable {options : GenerateOptions} {root : String} {ctx : Context} {base : Location}
  {d d' : Disk} {report : Report} {files : List PlannedFile}
  (hroot : EmptyRoot d root base) (hran : Ran [.builtin] options root ctx base d d' report files)

include hroot hran

theorem rooted_afterwards : d'.Rooted root base := hroot.rooted.keeps hran.written.keeps

theorem takes_label {g : PlannedFile} (hg : g ∈ files) : d.Takes (Path.join root g.label) :=
  hroot.takes _ ((places_sublist (levels_sublist _ _) (commands_sublist _)).subset
    (hran.label_mem hg))

/-- Every planned file can be read, and has its text. -/
theorem readText_of_mem {g : PlannedFile} (hg : g ∈ files) :
    d'.readText (Path.join root g.label) = .ok g.text := by
  have hcreated : outcomeOn d base options.overwrite g = .created :=
    outcomeOn_eq_created_iff.2 (hroot.vacant (Path.segments_ne_nil _))
  have hheld := hran.written.held g hg (by rw [hcreated]; exact nofun)
  have hloc := (rooted_afterwards hroot hran).locate_join (hran.laid.ordinary g hg)
    (takes_label hroot hran hg).whole (by rw [hheld]; exact nofun)
  exact Disk.readText_of_kindAt? hloc hheld

theorem exists_of_mem {g : PlannedFile} (hg : g ∈ files) :
    d'.exists? (Path.join root g.label) = true := by
  have hordinary := hran.laid.ordinary g hg
  exact ((rooted_afterwards hroot hran).exists?_join_iff hordinary.named).2
    ⟨⟨(takes_label hroot hran hg).whole, hordinary.isName⟩, hran.written.there hg⟩

omit hroot in
theorem rendered_mem {t : Template}
    (ht : t ∈ templates (Selection.levels ctx options.forced) (Selection.commands ctx)) :
    rendered root ctx t t.builtinText ∈ files := by
  obtain ⟨text, htext, hmem⟩ := hran.planned.rendering t ht
  obtain rfl : t.builtinText = text := Except.ok.inj htext
  exact hmem

omit hroot in
/-- A planned file comes from a builtin template or is one of the lists. -/
theorem file_cases {g : PlannedFile} (hg : g ∈ files) :
    (∃ t, g = rendered root ctx t t.builtinText) ∨
      g = listed root Layout.rulesManifest
        (Manifest.rules ctx (Selection.levels ctx options.forced)) ∨
      g = listed root Layout.commandsManifest
        (Manifest.commands ctx (Selection.commands ctx)) := by
  have hlabel := hran.label_mem hg
  rw [places_eq] at hlabel
  rcases List.mem_append.1 hlabel with hlabel | hlabel
  · obtain ⟨t, ht, hlabel⟩ := List.mem_map.1 hlabel
    exact .inl ⟨t, hran.laid.eq_of_label hg (rendered_mem hran ht) hlabel.symm⟩
  · simp only [List.mem_cons, List.not_mem_nil, or_false] at hlabel
    rcases hlabel with hlabel | hlabel
    · exact .inr (.inl (hran.laid.eq_of_label hg hran.planned.rulesList hlabel))
    · exact .inr (.inr (hran.laid.eq_of_label hg hran.planned.commandsList hlabel))

omit hroot in
theorem missing_of_mem {f : GeneratedFile} (hf : f ∈ report.files) : f.missing = [] := by
  obtain ⟨g, hg, rfl⟩ := hran.exists_file hf
  rcases file_cases hran hg with ⟨t, rfl⟩ | rfl | rfl
  · exact Template.missing_render_builtinText t ctx
  · rfl
  · rfl

/-! ### The directories of the sections -/

omit hran in
theorem refusal?_directory {dir : String} (hdir : dir ∈ directories) :
    Disk.refusal? (Path.join root dir) = none := by
  have hordinary : Ordinary dir := ordinary_directory hdir
  obtain ⟨p, hp, name, hsegs⟩ := exists_place_of_directory Level.all Command.all hdir
  have hp' : Ordinary p := ordinary_of_mem_places (List.Sublist.refl _) (List.Sublist.refl _) hp
  obtain ⟨r, hr⟩ := Path.exists_join_eq root
  have hwhole := (hroot.takes p hp).whole
  have hne : dir ≠ "" := by
    rintro rfl
    exact absurd hdir (by decide +kernel)
  rw [hr p hp'.isAbsolute, Path.eq_of_segments_concat hsegs, String.append_assoc,
    ← String.append_assoc] at hwhole
  rw [hr dir hordinary.isAbsolute]
  exact Disk.refusal?_of_append hwhole (by simp [hne])

theorem locate_directory {dir : String} (hdir : dir ∈ directories) :
    d'.locate (Path.join root dir) = .ok (base ++ segments dir) := by
  apply (rooted_afterwards hroot hran).locate_join (ordinary_directory hdir)
    (refusal?_directory hroot hdir)
  rw [hran.directories hdir]
  exact nofun

theorem isDir_directory {dir : String} (hdir : dir ∈ directories) :
    d'.isDir (Path.join root dir) = true :=
  Disk.isDir_eq_true_iff.2
    ⟨_, locate_directory hroot hran hdir, hran.directories hdir⟩

/-- Below a directory without further directories stand files of the plan only. -/
theorem mem_files_of_there {dir name : String} (hdir : dir ∈ [Layout.rulesDir, Layout.commandsDir])
    (hthere : d'.tree.kindAt? (base ++ segments dir ++ [name]) ≠ none) :
    ∃ g ∈ files, segments g.label = segments dir ++ [name] := by
  rw [List.append_assoc] at hthere
  by_contra hother
  have hloc : ∀ f ∈ report.files, base ++ (segments dir ++ [name]) ≠ base ++ segments f.path := by
    intro f hf heq
    obtain ⟨g, hg, rfl⟩ := hran.exists_file hf
    exact hother ⟨g, hg, (List.append_cancel_left heq).symm⟩
  rcases hran.frame hloc with hsame | ⟨-, -, e, he, heq⟩
  · rw [hroot.vacant (by simp)] at hsame
    exact hthere hsame
  · have hdepth : ∀ a ∈ [Layout.rulesDir, Layout.commandsDir], ∀ b ∈ directories,
        (segments b).length < (segments a ++ [""]).length := by decide +kernel
    have hlt := hdepth dir hdir e he
    rw [← List.append_cancel_left heq] at hlt
    simp at hlt

/-- The files of a section with the extension of rules and commands come from builtin templates. -/
theorem exists_template_of_mem {dir : String} {name : FileName}
    (hdir : dir ∈ [Layout.rulesDir, Layout.commandsDir])
    (hname : name ∈ d'.filesWithExtension (Path.join root dir) "mdc") :
    ∃ s t, name = .text s ∧ rendered root ctx t t.builtinText ∈ files ∧
      t.target = dir ++ "/" ++ s ∧ Path.isAbsolute s = false := by
  have hraw : d'.tree.rawAt (base ++ segments dir) = [] := by
    rw [hran.written.raw, hroot.rawAt_eq_nil]
  obtain ⟨s, rfl, hextension, hthere⟩ := Disk.of_mem_filesWithExtension
    (locate_directory hroot hran (List.mem_cons_of_mem _ hdir)) hraw hname
  obtain ⟨g, hg, hsegs⟩ := mem_files_of_there hroot hran hdir hthere
  have habs : Path.isAbsolute s = false :=
    Path.isAbsolute_of_mem_segments (p := g.label) (by simp [hsegs])
  have hlist : ∀ p ∈ [Layout.rulesManifest, Layout.commandsManifest],
      ((segments p).getLast?.bind Path.extension?) ≠ some "mdc" := by decide +kernel
  rcases file_cases hran hg with ⟨t, rfl⟩ | rfl | rfl
  · exact ⟨s, t, rfl, hg, Path.eq_of_segments_concat hsegs, habs⟩
  · refine absurd ?_ (hlist Layout.rulesManifest (by simp))
    rw [show segments Layout.rulesManifest = segments dir ++ [s] from hsegs]
    simp [hextension]
  · refine absurd ?_ (hlist Layout.commandsManifest (by simp))
    rw [show segments Layout.commandsManifest = segments dir ++ [s] from hsegs]
    simp [hextension]

/-! ### What the inspection finds -/

/-- A list that was written is there to be read, and has the key it is asked for. -/
theorem clean_manifestFile {s : Section} {manifest entries : Json}
    (hlist : listed root s.manifest manifest ∈ files)
    (hparse : Json.parse? (Manifest.text manifest) = some manifest)
    (hkey : manifest.member? s.key = some entries) : Clean (s.manifestFile d' root) := by
  rw [Section.clean_manifestFile_iff]
  intro _
  have hread := readText_of_mem hroot hran hlist
  exact ⟨Manifest.text manifest, manifest, entries, hread, hparse, hkey⟩

section Plain

variable (hplain : (Engine.standard.normalize ctx).ShowsPlainly)

include hplain

theorem exists_readText_of_rendered {t : Template}
    (ht : rendered root ctx t t.builtinText ∈ files) :
    ∃ text, d'.readText (Path.join root t.target) = .ok text ∧ Token.names text = [] := by
  have hread := readText_of_mem hroot hran ht
  exact ⟨(Engine.standard.render t.builtinText ctx).output, hread,
    Template.names_render_builtinText t hplain⟩

/-- **A section is clean** when its list was written. -/
theorem clean_inspect {s : Section} {manifest entries : Json}
    (hdir : s.dir ∈ [Layout.rulesDir, Layout.commandsDir])
    (hlist : listed root s.manifest manifest ∈ files)
    (hparse : Json.parse? (Manifest.text manifest) = some manifest)
    (hkey : manifest.member? s.key = some entries) : Clean (s.inspect d' root) := by
  have hmem : s.dir ∈ directories := List.mem_cons_of_mem _ hdir
  rw [Section.clean_inspect_iff (isDir_directory hroot hran hmem)]
  refine ⟨clean_manifestFile hroot hran hlist hparse hkey, ?_⟩
  intro name hname
  obtain ⟨u, t, rfl, ht, htarget, habs⟩ := exists_template_of_mem hroot hran hdir hname
  have hread : d'.readTextIn (Path.join root s.dir) (.text u) =
      d'.readText (Path.join root t.target) := by
    rw [htarget, ← Path.join_join root (ordinary_directory hmem) habs]
    rfl
  rw [hread]
  exact exists_readText_of_rendered hroot hran hplain ht

theorem clean_cursorRules : Clean (cursorRules d' root) := by
  rw [clean_cursorRules_iff]
  intro _
  have hread := exists_readText_of_rendered hroot hran hplain
    (rendered_mem hran (cursorRules_mem_templates _ _))
  exact hread

omit hplain in
theorem exists_required {place : String} (h : place ∈ Layout.required) :
    d'.exists? (Path.join root place) = true := by
  simp only [Layout.required, List.mem_cons, List.not_mem_nil, or_false] at h
  have hfirst := exists_of_mem hroot hran (rendered_mem hran (cursorRules_mem_templates _ _))
  have hrules := exists_of_mem hroot hran hran.planned.rulesList
  have hcommands := exists_of_mem hroot hran hran.planned.commandsList
  rcases h with rfl | rfl | rfl
  · exact hfirst
  · exact hrules
  · exact hcommands

theorem clean_ofWorkspace : Clean (Inspection.ofWorkspace d' root) := by
  rw [clean_ofWorkspace_iff]
  refine ⟨fun place => exists_required hroot hran, ?_, ?_, clean_cursorRules hroot hran hplain⟩
  · exact clean_inspect hroot hran hplain (s := rulesSection) (by simp [rulesSection])
      hran.planned.rulesList (Manifest.parse?_rules _ _) rfl
  · exact clean_inspect hroot hran hplain (s := commandsSection) (by simp [commandsSection])
      hran.planned.commandsList (Manifest.parse?_commands _ _) rfl

end Plain

end Afterwards

/-! ### Generated workspaces are valid -/

/-- **A generated workspace passes its inspection.**  Where no value of the completed context
displays a `<`, generating into an empty directory succeeds in every mode, no name lacks a value,
and the inspection of the workspace ends without a fault and finds nothing wrong. -/
theorem valid_of_generate {d : Disk} {root : String} {base : Location} {ctx : Context}
    (hroot : EmptyRoot d root base) (hplain : (Engine.standard.normalize ctx).ShowsPlainly)
    (options : GenerateOptions) :
    ∃ report d', (generate [.builtin] options root ctx).runOn d = (.ok report, d') ∧
      (∀ f ∈ report.files, f.missing = []) ∧
      (Inspection.ofWorkspace d' root).fault? = none ∧
      (∀ f ∈ (Inspection.ofWorkspace d' root).findings, f.status ≠ .fail ∧ f.status ≠ .error) ∧
      (Inspection.ofWorkspace d' root).summary.allPassed = true := by
  obtain ⟨report, d', hrun⟩ := exists_generate_builtin hroot options ctx
  obtain ⟨files, hran⟩ := ran_of_generate hroot.rooted hrun
  have hagain : (Engine.standard.normalize (Engine.standard.normalize ctx)).ShowsPlainly := by
    rw [Engine.normalize, Engine.normalize, Normal.normalize_normalize]
    exact hplain
  have hclean := clean_ofWorkspace hroot hran hagain
  exact ⟨report, d', hrun, fun f hf => missing_of_mem hran hf, hclean.fault, hclean.findings,
    allPassed_iff.2 hclean.findings⟩

/-- A disk with an empty directory, which is not the working directory. -/
def fresh : Disk where
  tree := .folder [("ws", Tree.emptyDir)]
  workDir := []

theorem emptyRoot_fresh : EmptyRoot fresh "ws" ["ws"] where
  rooted := Rooted.of_name (by decide) (by decide +kernel) rfl
  empty := rfl
  wellPlaced :=
    { follow := by decide +kernel
      dir := rfl }
  takes := by decide +kernel

/-- In strict mode, with framework rules that nothing but the options asks for, a workspace for a
project with a name and a language is valid. -/
theorem valid_of_generate_fresh :
    EmptyRoot fresh "ws" ["ws"] ∧
      (Engine.standard.normalize (Dictionary.ofList
        [("primary_language", .text "rust"), ("project_name", .text "Acme")])).ShowsPlainly ∧
      ∃ report d', (generate [.builtin] ⟨true, false, [.framework]⟩ "ws" (Dictionary.ofList
          [("primary_language", .text "rust"), ("project_name", .text "Acme")])).runOn fresh =
            (.ok report, d') ∧
        (∀ f ∈ report.files, f.missing = []) ∧
        (Inspection.ofWorkspace d' "ws").fault? = none ∧
        (∀ f ∈ (Inspection.ofWorkspace d' "ws").findings,
          f.status ≠ .fail ∧ f.status ≠ .error) ∧
        (Inspection.ofWorkspace d' "ws").summary.allPassed = true := by
  have hplain : (Engine.standard.normalize (Dictionary.ofList
      [("primary_language", .text "rust"), ("project_name", .text "Acme")])).ShowsPlainly := by
    decide +kernel
  exact ⟨emptyRoot_fresh, hplain, valid_of_generate emptyRoot_fresh hplain _⟩

end WorkspaceTemplates.Generate

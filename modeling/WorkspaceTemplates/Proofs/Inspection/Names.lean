/-
  WorkspaceTemplates/Proofs/Inspection/Names.lean
  ===============================================
  **The names of checks.**

  An inspection finds one thing for a check, or nothing.  The names of checks are built
  from parts that tell them apart and from the texts that the names of generated files
  show, so two findings can have the same name only where two such files of one
  directory show the same text (`nodup_names_iff`).  A directory has no two entries of
  one name, and names that are texts show themselves.
-/
import WorkspaceTemplates.Proofs.Files.Disk
import WorkspaceTemplates.Proofs.Inspection.Validator
import Mathlib.Data.List.Count
import Mathlib.Data.List.Nodup

namespace WorkspaceTemplates

namespace Inspection

/-! ### One finding for each check -/

/-- The findings of an inspection are named by some names, in this order, or by fewer. -/
def NamedBy (i : Inspection) (names : List String) : Prop :=
  (i.findings.map (·.name)).Sublist names

theorem namedBy_found (name : String) (status : CheckStatus) (message : String) :
    NamedBy (found name status message) [name] := List.Sublist.refl _

theorem namedBy_of_nil {i : Inspection} (h : i.findings = []) (names : List String) :
    NamedBy i names := by
  rw [NamedBy, h]
  exact List.nil_sublist names

theorem NamedBy.andThen {i j : Inspection} {names names' : List String} (h : NamedBy i names)
    (h' : NamedBy j names') : NamedBy (i.andThen j) (names ++ names') := by
  rw [NamedBy, Inspection.andThen]
  split
  · exact h.trans (List.sublist_append_left names names')
  · rw [List.map_append]
    exact h.append h'

theorem namedBy_sequence_map {α : Type} {check : α → Inspection} {name : α → String}
    (h : ∀ x, NamedBy (check x) [name x]) (xs : List α) :
    NamedBy (sequence (xs.map check)) (xs.map name) := by
  induction xs with
  | nil => exact namedBy_of_nil rfl _
  | cons x xs ih => exact (h x).andThen ih

/-- The name of the check of a file that every workspace has. -/
def requiredName (place : String) : String :=
  "file_exists_" ++ String.ofList (place.toList.map fun c => if c = '/' then '_' else c)

/-- The name of the check of a file in the directory of a section. -/
def Section.fileName (s : Section) (name : String) : String :=
  s.singular ++ "_file_" ++ name ++ "_no_placeholders"

/-- The names of the checks of a section, when its directory has some files. -/
def Section.checkNames (s : Section) (files : List String) : List String :=
  [s.key ++ "_directory_exists", s.key ++ "_manifest_valid"] ++ files.map s.fileName

/-- The names of all checks, when the directories of the rules and of the commands have some
files. -/
def checkNames (rules commands : List String) : List String :=
  Layout.required.map requiredName ++
    (rulesSection.checkNames rules ++
      (commandsSection.checkNames commands ++
        (["cursorrules_no_placeholders"] ++ ["hooks_directory_exists", "hooks_present"])))

section Names

variable (d : Disk) (root : String)

theorem namedBy_requiredFile (place : String) :
    NamedBy (requiredFile d root place) [requiredName place] := by
  rw [requiredFile]
  split
  · exact namedBy_found _ _ _
  · exact namedBy_found _ _ _

omit d root in
theorem namedBy_placeholders (content : Except Fault String) (name shown : String) :
    NamedBy (placeholders content name shown) [name] := by
  cases content with
  | error f => exact namedBy_of_nil rfl _
  | ok text =>
    simp only [placeholders]
    split
    · exact namedBy_found _ _ _
    · exact namedBy_found _ _ _

theorem namedBy_manifestFile (s : Section) :
    NamedBy (s.manifestFile d root) [s.key ++ "_manifest_valid"] := by
  rw [Section.manifestFile]
  split
  · split
    · exact namedBy_of_nil rfl _
    · rw [Section.manifestText]
      simp only
      split
      · exact namedBy_found _ _ _
      · split
        · exact namedBy_found _ _ _
        · exact namedBy_found _ _ _
  · exact namedBy_of_nil rfl _

theorem namedBy_inspect (s : Section) :
    NamedBy (s.inspect d root)
      (s.checkNames ((d.filesWithExtension (Path.join root s.dir) "mdc").map (·.shown))) := by
  rw [Section.inspect, Section.checkNames]
  simp only
  split
  · -- the directory is missing, and nothing is said of what it would hold
    have hfirst : [s.key ++ "_directory_exists"].Sublist
        ([s.key ++ "_directory_exists", s.key ++ "_manifest_valid"] ++
          ((d.filesWithExtension (Path.join root s.dir) "mdc").map (·.shown)).map
            s.fileName) := by simp
    split
    · exact (namedBy_found _ _ _).trans hfirst
    · exact (namedBy_found _ _ _).trans hfirst
  · have hfiles := namedBy_sequence_map
      (fun name => namedBy_placeholders (d.readTextIn (Path.join root s.dir) name)
        (s.fileName name.shown) name.shown)
      (d.filesWithExtension (Path.join root s.dir) "mdc")
    rw [sequence_cons, List.map_map]
    exact ((namedBy_manifestFile d root s).andThen hfiles).trans (List.sublist_cons_self _ _)

theorem namedBy_cursorRules : NamedBy (cursorRules d root) ["cursorrules_no_placeholders"] := by
  rw [cursorRules]
  split
  · exact namedBy_placeholders _ _ _
  · exact namedBy_of_nil rfl _

theorem namedBy_hooks :
    NamedBy (hooks d root) ["hooks_directory_exists", "hooks_present"] := by
  rw [hooks]
  simp only
  split
  · exact (namedBy_found _ _ _).trans (by simp)
  · split
    · exact (namedBy_found _ _ _).trans (by simp)
    · exact (namedBy_found _ _ _).trans (by simp)

theorem namedBy_ofWorkspace :
    NamedBy (ofWorkspace d root)
      (checkNames
        ((d.filesWithExtension (Path.join root Layout.rulesDir) "mdc").map (·.shown))
        ((d.filesWithExtension (Path.join root Layout.commandsDir) "mdc").map (·.shown))) := by
  rw [ofWorkspace_eq]
  exact (namedBy_sequence_map (namedBy_requiredFile d root) Layout.required).andThen
    ((namedBy_inspect d root rulesSection).andThen
      ((namedBy_inspect d root commandsSection).andThen
        ((namedBy_cursorRules d root).andThen (namedBy_hooks d root))))

end Names

/-! ### Names of different checks -/

theorem Section.fileName_injective (s : Section) : Function.Injective s.fileName := by
  intro a b hab
  have htoList : (s.fileName a).toList = (s.fileName b).toList := by rw [hab]
  simp only [fileName, String.toList_append, List.append_assoc, List.append_cancel_left_eq,
    List.append_cancel_right_eq] at htoList
  exact String.toList_inj.1 htoList

theorem Section.toList_fileName (s : Section) (name : String) :
    (s.singular ++ "_file_").toList <+: (s.fileName name).toList := by
  refine ⟨(name ++ "_no_placeholders").toList, ?_⟩
  simp [fileName]

/-- **The names of all checks are different**, if no text is shown twice in a directory. -/
theorem nodup_checkNames {rules commands : List String} (hrules : rules.Nodup)
    (hcommands : commands.Nodup) : (checkNames rules commands).Nodup := by
  -- the names that do not depend on the files are put first
  have hperm : (checkNames rules commands).Perm
      (checkNames [] [] ++
        (rules.map rulesSection.fileName ++ commands.map commandsSection.fileName)) := by
    rw [List.perm_iff_count]
    intro name
    simp only [checkNames, Section.checkNames, List.count_append, List.map_nil, List.count_nil]
    omega
  have hfixed : ∀ name ∈ checkNames [] [], ∀ s ∈ [rulesSection, commandsSection],
      ¬ (s.singular ++ "_file_").toList <+: name.toList := by decide +kernel
  have hapart : ∀ name : String, (rulesSection.singular ++ "_file_").toList <+: name.toList →
      ¬ (commandsSection.singular ++ "_file_").toList <+: name.toList := by
    intro name h h'
    have hlist := List.prefix_of_prefix_length_le h h' (by decide +kernel)
    exact absurd hlist (by decide +kernel)
  rw [hperm.nodup_iff, List.nodup_append', List.nodup_append']
  refine ⟨by decide +kernel, ⟨hrules.map rulesSection.fileName_injective,
    hcommands.map commandsSection.fileName_injective, ?_⟩, ?_⟩
  · rw [List.disjoint_left]
    intro name hname hname'
    obtain ⟨a, -, rfl⟩ := List.mem_map.1 hname
    obtain ⟨b, -, hb⟩ := List.mem_map.1 hname'
    apply hapart _ (rulesSection.toList_fileName a)
    rw [← hb]
    exact commandsSection.toList_fileName b
  · rw [List.disjoint_left]
    intro name hname hfile
    rcases List.mem_append.1 hfile with hfile | hfile
    · obtain ⟨a, -, rfl⟩ := List.mem_map.1 hfile
      exact hfixed _ hname rulesSection (by simp) (rulesSection.toList_fileName a)
    · obtain ⟨a, -, rfl⟩ := List.mem_map.1 hfile
      exact hfixed _ hname commandsSection (by simp) (commandsSection.toList_fileName a)

/-! ### Checks that were all made -/

section Made

variable {d : Disk} {root : String}

/-- What each part of a sequence found is found, unless a fault ended it. -/
theorem findings_sublist_sequence {is : List Inspection} (hfault : (sequence is).fault? = none)
    {i : Inspection} (hi : i ∈ is) : i.findings.Sublist (sequence is).findings := by
  induction is with
  | nil => cases hi
  | cons j is ih =>
    rw [fault?_sequence_eq_none_iff, List.forall_mem_cons] at hfault
    rw [sequence_cons, andThen, hfault.1]
    rcases List.mem_cons.1 hi with rfl | hi
    · exact List.sublist_append_left _ _
    · exact (ih (fault?_sequence_eq_none_iff.2 hfault.2) hi).trans (List.sublist_append_right _ _)

theorem names_placeholders {content : Except Fault String} {name shown : String}
    (hfault : (placeholders content name shown).fault? = none) :
    (placeholders content name shown).findings.map (·.name) = [name] := by
  cases content with
  | error f => cases hfault
  | ok text =>
    simp only [placeholders]
    split
    · rfl
    · rfl

theorem names_sequence_map {α : Type} {check : α → Inspection} {name : α → String} {xs : List α}
    (hfault : (sequence (xs.map check)).fault? = none)
    (h : ∀ x, (check x).fault? = none → (check x).findings.map (·.name) = [name x]) :
    (sequence (xs.map check)).findings.map (·.name) = xs.map name := by
  induction xs with
  | nil => rfl
  | cons x xs ih =>
    rw [List.map_cons, fault?_sequence_eq_none_iff, List.forall_mem_cons] at hfault
    rw [List.map_cons, sequence_cons, andThen, hfault.1]
    simp only [List.map_append, h x hfault.1, ih (fault?_sequence_eq_none_iff.2 hfault.2),
      List.map_cons, List.singleton_append]

/-- Unless a fault ended the checks of a section, each of its files was checked. -/
theorem Section.sublist_names_inspect {s : Section} (hfault : (s.inspect d root).fault? = none) :
    ((d.filesWithExtension (Path.join root s.dir) "mdc").map fun name =>
      s.fileName name.shown).Sublist ((s.inspect d root).findings.map (·.name)) := by
  rw [inspect] at hfault ⊢
  simp only at hfault ⊢
  by_cases hdir : d.isDir (Path.join root s.dir) = true
  · rw [hdir, Bool.not_true, if_neg Bool.false_ne_true] at hfault ⊢
    rw [sequence_cons] at hfault ⊢
    rw [andThen] at hfault ⊢
    cases hlist : (s.manifestFile d root).fault? with
    | some f =>
      rw [hlist] at hfault
      cases hfault
    | none =>
      rw [hlist] at hfault
      simp only [List.map_append]
      rw [names_sequence_map hfault fun name => names_placeholders]
      exact List.sublist_append_right _ _
  · rw [Disk.filesWithExtension, Disk.entries_of_not_isDir hdir]
    exact List.nil_sublist _

/-- **Two findings have the same name exactly where two generated files show the same name**, unless
a fault ended the inspection. -/
theorem nodup_names_iff (hfault : (ofWorkspace d root).fault? = none) :
    ((ofWorkspace d root).findings.map (·.name)).Nodup ↔
      ∀ s ∈ [rulesSection, commandsSection],
        ((d.filesWithExtension (Path.join root s.dir) "mdc").map (·.shown)).Nodup := by
  constructor
  · intro h s hs
    have hmem : s.inspect d root ∈ Layout.required.map (requiredFile d root) ++
        [rulesSection.inspect d root, commandsSection.inspect d root, cursorRules d root,
          hooks d root] := by
      rcases List.mem_pair.1 hs with rfl | rfl
      · simp
      · simp
    have hmade : (s.inspect d root).fault? = none := by
      rw [ofWorkspace, fault?_sequence_eq_none_iff] at hfault
      exact hfault _ hmem
    have hnames := (Section.sublist_names_inspect hmade).trans
      ((findings_sublist_sequence hfault hmem).map (·.name))
    apply List.Nodup.of_map s.fileName
    rw [List.map_map]
    exact h.sublist hnames
  · intro h
    exact (nodup_checkNames (h rulesSection (by simp)) (h commandsSection (by simp))).sublist
      (namedBy_ofWorkspace d root)

end Made

end Inspection

end WorkspaceTemplates

/-
  WorkspaceTemplates/Proofs/Inspection/Verdict.lean
  =================================================
  **What the verdict of a validator says.**

  A run that no fault ends finds nothing wrong exactly when the workspace is complete:
  what it has to have is there, its lists can be read, and no token is left in its
  files (`Complete`).  A directory that is missing is not wrong by itself, but its list
  is missing with it (`isDir_of_exists?`), so no check that is left out hides a
  defect.  Of each check there is one finding at most, but checks of two files have
  the same name when the names of the files show the same text (`ShowsApart`).
-/
import WorkspaceTemplates.Proofs.Files.Success
import WorkspaceTemplates.Proofs.Inspection
import WorkspaceTemplates.Proofs.Inspection.Names
import WorkspaceTemplates.Proofs.Token.Shape

namespace WorkspaceTemplates

/-! ### Complete workspaces -/

namespace Disk

variable {d : Disk}

/-- A file holds a JSON object that has a key. -/
def HoldsList (d : Disk) (path key : String) : Prop :=
  ∃ text members, d.readText path = .ok text ∧ Json.parse? text = some (.object members) ∧
    ∃ entries, (key, entries) ∈ members

/-- What was read is a text in which a token stands. -/
def HasToken (content : Except Fault String) : Prop :=
  ∃ text name, content = .ok text ∧ Token.Occurs name text.toList

/-- A name is that of a file directly in a directory, with the extension of rules and commands. -/
structure IsGenerated (d : Disk) (dir : String) (name : FileName) : Prop where
  entry : ∃ t, (name, t) ∈ d.entries dir
  file : ∃ content, d.lookIn dir name = .ok (.file content)
  extension : name.hasExtension "mdc" = true

/-- Different files of a directory with the extension of rules and commands show different names. -/
def ShowsApart (d : Disk) (dir : String) : Prop :=
  ∀ a b, d.IsGenerated dir a → d.IsGenerated dir b → a.shown = b.shown → a = b

/-- Names that are texts show themselves. -/
theorem showsApart_of_text {dir : String}
    (h : ∀ name, d.IsGenerated dir name → ∃ s, name = .text s) :
    d.ShowsApart dir := by
  intro a b ha hb hshown
  obtain ⟨s, rfl⟩ := h a ha
  obtain ⟨t, rfl⟩ := h b hb
  rw [FileName.shown_text, FileName.shown_text] at hshown
  rw [hshown]

theorem mem_filesWithExtension_iff {dir : String} {name : FileName} :
    name ∈ d.filesWithExtension dir "mdc" ↔ d.IsGenerated dir name := by
  have hfile : d.isFileIn dir name = true ↔ ∃ content, d.lookIn dir name = .ok (.file content) := by
    rw [isFileIn]
    rcases d.lookIn dir name with e | u
    · simp
    · cases u <;> simp [Tree.isFile]
  simp only [filesWithExtension, List.mem_map, List.mem_filter, Bool.and_eq_true]
  constructor
  · rintro ⟨⟨name, t⟩, ⟨hentry, hthere, hextension⟩, rfl⟩
    exact ⟨⟨t, hentry⟩, hfile.1 hthere, hextension⟩
  · rintro ⟨⟨t, hentry⟩, hthere, hextension⟩
    exact ⟨(name, t), ⟨hentry, hfile.2 hthere, hextension⟩, rfl⟩

theorem nodup_shown_iff {dir : String} :
    ((d.filesWithExtension dir "mdc").map (·.shown)).Nodup ↔ d.ShowsApart dir := by
  rw [List.nodup_map_iff_inj_on (nodup_filesWithExtension d dir "mdc")]
  simp only [mem_filesWithExtension_iff]
  exact ⟨fun h a b ha hb => h a ha b hb, fun h a ha b hb => h a b ha hb⟩

end Disk

namespace Inspection

open Disk (HasToken)

/-- A workspace has what every workspace has, its lists can be read, and no token is left. -/
structure Complete (d : Disk) (root : String) : Prop where
  required : ∀ place ∈ Layout.required, d.exists? (Path.join root place) = true
  rulesList : d.HoldsList (Path.join root Layout.rulesManifest) "rules"
  commandsList : d.HoldsList (Path.join root Layout.commandsManifest) "commands"
  cursorRules : ¬ HasToken (d.readText (Path.join root Layout.cursorRules))
  generated : ∀ dir ∈ [Layout.rulesDir, Layout.commandsDir], ∀ name,
    d.IsGenerated (Path.join root dir) name → ¬ HasToken (d.readTextIn (Path.join root dir) name)

section Complete

variable {d : Disk} {root : String}

theorem member?_isSome_iff {members : List (String × Json)} {key : String} :
    (∃ entries, Json.member? key (.object members) = some entries) ↔
      ∃ entries, (key, entries) ∈ members := by
  rw [← Option.isSome_iff_exists, ← Option.ne_none_iff_isSome]
  show members.reverse.lookup key ≠ none ↔ _
  rw [Ne, List.lookup_eq_none_iff]
  simp only [List.mem_reverse, bne_iff_ne, ne_eq, not_forall, not_not]
  constructor
  · rintro ⟨e, he, rfl⟩
    exact ⟨e.2, he⟩
  · rintro ⟨entries, he⟩
    exact ⟨(key, entries), he, rfl⟩

theorem holdsList_iff {path key : String} :
    d.HoldsList path key ↔
      ∃ text j entries, d.readText path = .ok text ∧ Json.parse? text = some j ∧
        j.member? key = some entries := by
  constructor
  · rintro ⟨text, members, htext, hparse, hkey⟩
    obtain ⟨entries, hentries⟩ := member?_isSome_iff.2 hkey
    exact ⟨text, _, entries, htext, hparse, hentries⟩
  · rintro ⟨text, j, entries, htext, hparse, hentries⟩
    obtain ⟨members, hobject, -⟩ := Option.bind_eq_some_iff.1 hentries
    cases j with
    | object members =>
      exact ⟨text, members, htext, hparse, member?_isSome_iff.1 ⟨entries, hentries⟩⟩
    | _ => cases hobject

/-! ### Files without a token -/

/-- Where a check of the tokens of a file would pass, none is left. -/
theorem not_hasToken_of_clean {content : Except Fault String} {name shown : String}
    (h : Clean (placeholders content name shown)) : ¬ HasToken content := by
  obtain ⟨text, rfl, hnames⟩ := clean_placeholders_iff.1 h
  rintro ⟨text', name, htext, hoccurs⟩
  cases htext
  exact Token.names_eq_nil_iff.1 hnames name hoccurs

/-- A check of the tokens of a file that no fault ended passes exactly when none is left. -/
theorem clean_placeholders_iff_not_hasToken {content : Except Fault String} {name shown : String}
    (hfault : (placeholders content name shown).fault? = none) :
    Clean (placeholders content name shown) ↔ ¬ HasToken content := by
  refine ⟨not_hasToken_of_clean, ?_⟩
  intro h
  rw [clean_placeholders_iff]
  cases content with
  | error f => cases hfault
  | ok text =>
    refine ⟨text, rfl, Token.names_eq_nil_iff.2 ?_⟩
    exact fun name hoccurs => h ⟨text, name, rfl, hoccurs⟩

/-! ### Sections -/

section Sections

variable {s : Section} {file : String} (hmanifest : s.manifest = s.dir ++ "/" ++ file)
  (hrelative : Path.isAbsolute s.dir = false ∧ Path.isAbsolute s.manifest = false)
  (hdir : s.dir ≠ "")

include hmanifest hrelative hdir

/-- Where a section has its list, it has its directory. -/
theorem isDir_of_manifest (h : d.exists? (Path.join root s.manifest) = true) :
    d.isDir (Path.join root s.dir) = true := by
  obtain ⟨r, hr⟩ := Path.exists_join_eq root
  rw [hr _ hrelative.2, hmanifest, ← String.append_assoc, ← String.append_assoc] at h
  rw [hr _ hrelative.1]
  exact Disk.isDir_of_exists? (by simp [hdir]) h

/-- **A section in which nothing is wrong** has a list that can be read, if it is there, and no
token in its files. -/
theorem clean_inspect_iff_of_manifest (hfault : (s.inspect d root).fault? = none)
    (hthere : d.exists? (Path.join root s.manifest) = true) :
    Clean (s.inspect d root) ↔ d.HoldsList (Path.join root s.manifest) s.key ∧
      ∀ name, d.IsGenerated (Path.join root s.dir) name →
        ¬ HasToken (d.readTextIn (Path.join root s.dir) name) := by
  have hisDir := isDir_of_manifest hmanifest hrelative hdir hthere
  rw [Section.inspect] at hfault ⊢
  simp only [hisDir, Bool.not_true, Bool.false_eq_true, if_false, fault?_sequence_eq_none_iff,
    clean_sequence_iff, List.forall_mem_cons, List.forall_mem_map] at hfault ⊢
  rw [Section.clean_manifestFile_iff, holdsList_iff, forall_prop_of_true hthere]
  refine and_congr_right fun _ => forall_congr' fun name => ?_
  rw [← Disk.mem_filesWithExtension_iff]
  exact forall_congr' fun hname => clean_placeholders_iff_not_hasToken (hfault.2 name hname)

end Sections

/-! ### The whole workspace -/

theorem clean_rulesSection_iff (hfault : (rulesSection.inspect d root).fault? = none)
    (hthere : d.exists? (Path.join root Layout.rulesManifest) = true) :
    Clean (rulesSection.inspect d root) ↔
      d.HoldsList (Path.join root Layout.rulesManifest) "rules" ∧
        ∀ name, d.IsGenerated (Path.join root Layout.rulesDir) name →
          ¬ HasToken (d.readTextIn (Path.join root Layout.rulesDir) name) :=
  have hmanifest : rulesSection.manifest =
      rulesSection.dir ++ "/" ++ "rules_manifest.json" := by decide
  clean_inspect_iff_of_manifest hmanifest (by decide) (by decide) hfault hthere

theorem clean_commandsSection_iff (hfault : (commandsSection.inspect d root).fault? = none)
    (hthere : d.exists? (Path.join root Layout.commandsManifest) = true) :
    Clean (commandsSection.inspect d root) ↔
      d.HoldsList (Path.join root Layout.commandsManifest) "commands" ∧
        ∀ name, d.IsGenerated (Path.join root Layout.commandsDir) name →
          ¬ HasToken (d.readTextIn (Path.join root Layout.commandsDir) name) :=
  have hmanifest : commandsSection.manifest =
      commandsSection.dir ++ "/" ++ "commands_manifest.json" := by decide
  clean_inspect_iff_of_manifest hmanifest (by decide) (by decide) hfault hthere

/-- Where the first rules are, they are clean when no token is left in them. -/
theorem clean_cursorRules_iff_not_hasToken (hfault : (cursorRules d root).fault? = none)
    (hthere : d.exists? (Path.join root Layout.cursorRules) = true) :
    Clean (cursorRules d root) ↔ ¬ HasToken (d.readText (Path.join root Layout.cursorRules)) := by
  rw [cursorRules] at hfault ⊢
  simp only [hthere, if_true] at hfault ⊢
  exact clean_placeholders_iff_not_hasToken hfault

/-- An inspection that no fault ended finds nothing wrong exactly in a complete workspace. -/
theorem clean_iff_complete (hfault : (ofWorkspace d root).fault? = none) :
    Clean (ofWorkspace d root) ↔ Complete d root := by
  rw [ofWorkspace, fault?_sequence_eq_none_iff] at hfault
  have hrules := hfault (rulesSection.inspect d root) (by simp)
  have hcommands := hfault (commandsSection.inspect d root) (by simp)
  have hfirst := hfault (cursorRules d root) (by simp)
  have hplace : ∀ place ∈ [Layout.cursorRules, Layout.rulesManifest, Layout.commandsManifest],
      place ∈ Layout.required := by decide
  rw [clean_ofWorkspace_iff]
  constructor
  · rintro ⟨hthere, hr, hc, hf⟩
    obtain ⟨hrulesList, hrulesFiles⟩ :=
      (clean_rulesSection_iff hrules (hthere _ (hplace _ (by simp)))).1 hr
    obtain ⟨hcommandsList, hcommandsFiles⟩ :=
      (clean_commandsSection_iff hcommands (hthere _ (hplace _ (by simp)))).1 hc
    refine ⟨hthere, hrulesList, hcommandsList,
      (clean_cursorRules_iff_not_hasToken hfirst (hthere _ (hplace _ (by simp)))).1 hf, ?_⟩
    intro dir hdir
    rcases List.mem_pair.1 hdir with rfl | rfl
    · exact hrulesFiles
    · exact hcommandsFiles
  · intro h
    refine ⟨h.required, ?_, ?_, ?_⟩
    · exact (clean_rulesSection_iff hrules (h.required _ (hplace _ (by simp)))).2
        ⟨h.rulesList, h.generated _ (by simp)⟩
    · exact (clean_commandsSection_iff hcommands (h.required _ (hplace _ (by simp)))).2
        ⟨h.commandsList, h.generated _ (by simp)⟩
    · exact (clean_cursorRules_iff_not_hasToken hfirst (h.required _ (hplace _ (by simp)))).2
        h.cursorRules

end Complete

/-! ### Summaries -/

/-- Every finding is of one of the four kinds. -/
theorem total_ofStatuses (statuses : List CheckStatus) :
    (Summary.ofStatuses statuses).total =
      (Summary.ofStatuses statuses).passed + (Summary.ofStatuses statuses).failed +
        (Summary.ofStatuses statuses).errors + (Summary.ofStatuses statuses).skipped := by
  simp only [Summary.ofStatuses]
  induction statuses with
  | nil => rfl
  | cons status statuses ih =>
    rw [List.length_cons, ih]
    cases status <;> simp only [List.count_cons] <;> simp <;> omega

end Inspection

/-! ### The verdict -/

open Disk (ShowsApart)
open Inspection (Complete)

/-- **A run that no fault ends decides whether the workspace is complete.**  Everything passed
exactly when it is; the run found what a validator that never ran before finds; no two findings have
the same name unless two files of a directory show the same one, which files with names that are
texts do not; and the summary counts each finding once. -/
theorem Validator.allPassed_iff_complete {d : Disk} {v v' : Validator}
    (h : v.validateAll d = (.ok (), v')) :
    (v'.summary.allPassed = true ↔ Complete d v.root) ∧
      Validator.validateAll ⟨v.root, []⟩ d = (.ok (), v') ∧
      ((v'.findings.map (·.name)).Nodup ↔
        ∀ dir ∈ [Layout.rulesDir, Layout.commandsDir], d.ShowsApart (Path.join v.root dir)) ∧
      ((∀ dir ∈ [Layout.rulesDir, Layout.commandsDir], ∀ name,
          d.IsGenerated (Path.join v.root dir) name → ∃ s, name = .text s) →
        (v'.findings.map (·.name)).Nodup) ∧
      v'.summary.total =
        v'.summary.passed + v'.summary.failed + v'.summary.errors + v'.summary.skipped := by
  rw [validateAll_eq, Prod.mk.injEq] at h
  obtain ⟨hresult, rfl⟩ := h
  have hfault : (Inspection.ofWorkspace d v.root).fault? = none := by
    rw [Inspection.result] at hresult
    split at hresult
    · cases hresult
    · assumption
  have hnames : ((Inspection.ofWorkspace d v.root).findings.map (·.name)).Nodup ↔
      ∀ dir ∈ [Layout.rulesDir, Layout.commandsDir], d.ShowsApart (Path.join v.root dir) := by
    rw [Inspection.nodup_names_iff hfault]
    simp only [Disk.nodup_shown_iff, List.forall_mem_cons, List.not_mem_nil, false_imp_iff,
      implies_true]
    rfl
  refine ⟨?_, ?_, hnames, ?_, Inspection.total_ofStatuses _⟩
  · have hpassed := Inspection.allPassed_iff (i := Inspection.ofWorkspace d v.root)
    rw [← Inspection.clean_iff_complete hfault]
    constructor
    · exact fun hall => ⟨hfault, hpassed.1 hall⟩
    · exact fun hclean => hpassed.2 hclean.findings
  · rw [validateAll_eq, hresult]
  · exact fun htext => hnames.2 fun dir hdir => Disk.showsApart_of_text (htext dir hdir)

/-- The name of a rule that starts with a byte that no text has. -/
def strayRule (first : UInt8) (h : first ∈ [0xFE, 0xFF]) : RawName where
  bytes := first :: utf8Bytes ".mdc"
  notText := by
    rcases List.mem_pair.1 h with rfl | rfl
    · decide +kernel
    · decide +kernel
  short := by
    rcases List.mem_pair.1 h with rfl | rfl
    · decide +kernel
    · decide +kernel
  proper := by
    rcases List.mem_pair.1 h with rfl | rfl
    · decide +kernel
    · decide +kernel

/-- A disk with a workspace that has a rule with such a name, a directory named like a rule, and a
token in a file that is none. -/
def inspected : Disk where
  tree := .folder
    [("ws", .folder
        [(".cursor", .folder
            [("commands", .folder
                [("commands_manifest.json", .file "\x7b\"commands\": 0\x7d".toUTF8)]),
              ("rules", .dir
                [("level1-core.mdc", .file "<PLACEHOLDER: NAME".toUTF8),
                  ("notes.txt", .file "<PLACEHOLDER: NAME>".toUTF8),
                  ("old.mdc", .folder []),
                  ("rules_manifest.json", .file "\x7b\"rules\": []\x7d".toUTF8)]
                [(strayRule 0xFF (by decide), .file "".toUTF8)])]),
          (".cursorrules", .file "".toUTF8)])]
  workDir := []

/-- The workspace is complete, and a run says so, although an earlier one found an error. -/
theorem Validator.allPassed_inspected :
    let v : Validator := ⟨"ws", [⟨"rules_manifest_valid", .error, "invalid JSON"⟩]⟩
    ∃ v', v.validateAll inspected = (.ok (), v') ∧ v'.summary.allPassed = true ∧
      Complete inspected "ws" ∧ Validator.validateAll ⟨"ws", []⟩ inspected = (.ok (), v') ∧
      (v'.findings.map (·.name)).Nodup ∧
      (∀ dir ∈ [Layout.rulesDir, Layout.commandsDir], inspected.ShowsApart (Path.join "ws" dir)) ∧
      v'.summary.total =
        v'.summary.passed + v'.summary.failed + v'.summary.errors + v'.summary.skipped := by
  intro v
  have hran : (v.validateAll inspected).1 = .ok () ∧
      (v.validateAll inspected).2.summary.allPassed = true ∧
      ((v.validateAll inspected).2.findings.map (·.name)).Nodup := by decide +kernel
  rcases hrun : v.validateAll inspected with ⟨result, v'⟩
  rw [hrun] at hran
  obtain ⟨rfl, hpassed, hnodup⟩ := hran
  obtain ⟨hiff, hagain, hnames, -, htotal⟩ := Validator.allPassed_iff_complete hrun
  exact ⟨v', rfl, hpassed, hiff.1 hpassed, hagain, hnodup, hnames.1 hnodup, htotal⟩

/-- A disk with a workspace that has two rules whose names show the same text. -/
def misnamed : Disk where
  tree := .folder
    [("ws", .folder
        [(".cursor", .folder
            [("rules", .dir []
                [(strayRule 0xFE (by decide), .file "".toUTF8),
                  (strayRule 0xFF (by decide), .file "".toUTF8)])])])]
  workDir := []

/-- A run that no fault ends can find two things of one name. -/
theorem Validator.not_nodup_names :
    ¬ ∀ (d : Disk) (v v' : Validator), v.validateAll d = (.ok (), v') →
      (v'.findings.map (·.name)).Nodup := by
  intro hall
  have hran : (Validator.validateAll ⟨"ws", []⟩ misnamed).1 = .ok () ∧
      ¬ ((Validator.validateAll ⟨"ws", []⟩ misnamed).2.findings.map (·.name)).Nodup := by
    decide +kernel
  exact hran.2 (hall misnamed ⟨"ws", []⟩ _ (Prod.ext hran.1 rfl))

end WorkspaceTemplates

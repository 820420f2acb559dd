/-
  WorkspaceTemplates/Proofs/Inspection.lean
  =========================================
  **Inspections that find nothing wrong.**

  An inspection is `Clean` when no fault ended it and no finding failed or was in
  error.  A sequence is clean exactly when all of its parts are, so a clean
  inspection of a workspace comes apart into what it says of single files
  (`clean_ofWorkspace_iff`).
-/
import WorkspaceTemplates.Inspection

namespace WorkspaceTemplates.Inspection

/-- No fault ended the inspection, and no finding failed or was in error. -/
structure Clean (i : Inspection) : Prop where
  fault : i.fault? = none
  findings : ∀ f ∈ i.findings, f.status ≠ .fail ∧ f.status ≠ .error

/-! ### Putting inspections together -/

theorem clean_nothing : Clean nothing := ⟨rfl, nofun⟩

theorem clean_found_iff {name message : String} {status : CheckStatus} :
    Clean (found name status message) ↔ status ≠ .fail ∧ status ≠ .error := by
  constructor
  · intro h
    exact h.findings _ (List.mem_singleton_self _)
  · intro h
    refine ⟨rfl, ?_⟩
    intro f hf
    rw [List.mem_singleton.1 hf]
    exact h

theorem clean_sequence_iff {is : List Inspection} : Clean (sequence is) ↔ ∀ i ∈ is, Clean i := by
  induction is with
  | nil => simp [sequence, clean_nothing]
  | cons i is ih =>
    rw [List.forall_mem_cons, ← ih, sequence]
    cases hfault : i.fault? with
    | some f =>
      constructor
      · intro h
        cases h.fault
      · rintro ⟨h, -⟩
        rw [h.fault] at hfault
        cases hfault
    | none =>
      constructor
      · intro h
        refine ⟨⟨hfault, ?_⟩, h.fault, ?_⟩
        · exact fun f hf => h.findings f (List.mem_append_left _ hf)
        · exact fun f hf => h.findings f (List.mem_append_right _ hf)
      · rintro ⟨hi, hrest⟩
        refine ⟨hrest.fault, ?_⟩
        intro f hf
        rcases List.mem_append.1 hf with hf | hf
        · exact hi.findings f hf
        · exact hrest.findings f hf

/-- Everything passed exactly when no finding failed or was in error. -/
theorem allPassed_iff {i : Inspection} :
    i.summary.allPassed = true ↔ ∀ f ∈ i.findings, f.status ≠ .fail ∧ f.status ≠ .error := by
  have hcount (status : CheckStatus) :
      (i.findings.map (·.status)).count status = 0 ↔ ∀ f ∈ i.findings, f.status ≠ status := by
    simp [List.count_eq_zero]
  simp only [summary, Summary.ofStatuses, Summary.allPassed, Bool.and_eq_true, beq_iff_eq, hcount]
  constructor
  · rintro ⟨hfail, herror⟩ f hf
    exact ⟨hfail f hf, herror f hf⟩
  · intro h
    exact ⟨fun f hf => (h f hf).1, fun f hf => (h f hf).2⟩

/-! ### Single checks -/

section Checks

variable {d : Disk} {root : String}

theorem clean_requiredFile_iff {place : String} :
    Clean (requiredFile d root place) ↔ d.exists? (Path.join root place) = true := by
  rw [requiredFile]
  cases d.exists? (Path.join root place) <;> simp [clean_found_iff]

theorem clean_placeholders_iff {content : Except Fault String} {name shown : String} :
    Clean (placeholders content name shown) ↔
      ∃ text, content = .ok text ∧ Token.names text = [] := by
  cases content with
  | error f =>
    constructor
    · intro h
      cases h.fault
    · rintro ⟨text, h, -⟩
      cases h
  | ok text =>
    simp only [placeholders, Engine.validate, Validation.isComplete, List.isEmpty_iff,
      Except.ok.injEq, exists_eq_left']
    split
    · simp [clean_found_iff, *]
    · simp [clean_found_iff, *]

namespace Section

variable {s : Section}

theorem clean_manifestText_iff {text : String} :
    Clean (s.manifestText text) ↔
      ∃ j entries, Json.parse? text = some j ∧ j.member? s.key = some entries := by
  rw [manifestText]
  cases Json.parse? text with
  | none => simp [clean_found_iff]
  | some j => cases h : j.member? s.key <;> simp [clean_found_iff, h]

/-- What a clean inspection says of a list: it can be read, and it has the key of its section. -/
theorem clean_manifestFile_iff :
    Clean (s.manifestFile d root) ↔
      (d.exists? (Path.join root s.manifest) = true →
        ∃ text j entries, d.readText (Path.join root s.manifest) = .ok text ∧
          Json.parse? text = some j ∧ j.member? s.key = some entries) := by
  rw [manifestFile]
  split
  · cases hread : d.readText (Path.join root s.manifest) with
    | error f =>
      constructor
      · intro h
        cases h.fault
      · intro h
        obtain ⟨text, _, _, htext, -⟩ := h ‹_›
        cases htext
    | ok text => simp [clean_manifestText_iff, *]
  · simp [clean_nothing, *]

theorem clean_generatedFile_iff {dir : String} {name : FileName} :
    Clean (s.generatedFile d dir name) ↔
      ∃ text, d.readTextIn dir name = .ok text ∧ Token.names text = [] :=
  clean_placeholders_iff

/-- What a clean inspection says of a directory that is there. -/
theorem clean_inspect_iff (hdir : d.isDir (Path.join root s.dir) = true) :
    Clean (s.inspect d root) ↔ Clean (s.manifestFile d root) ∧
      ∀ name ∈ d.filesWithExtension (Path.join root s.dir) "mdc",
        ∃ text, d.readTextIn (Path.join root s.dir) name = .ok text ∧ Token.names text = [] := by
  rw [inspect]
  simp only [hdir, Bool.not_true, Bool.false_eq_true, if_false, clean_sequence_iff,
    List.forall_mem_cons, List.forall_mem_map, clean_generatedFile_iff]

end Section

theorem clean_cursorRules_iff :
    Clean (cursorRules d root) ↔ (d.exists? (Path.join root Layout.cursorRules) = true →
      ∃ text, d.readText (Path.join root Layout.cursorRules) = .ok text ∧
        Token.names text = []) := by
  rw [cursorRules]
  split
  · simp [clean_placeholders_iff, *]
  · simp [clean_nothing, *]

/-- Hooks are never wrong. -/
theorem clean_hooks (d : Disk) (root : String) : Clean (hooks d root) := by
  rw [hooks]
  split
  · simp [clean_found_iff]
  · simp only
    split
    · simp [clean_found_iff]
    · simp [clean_found_iff]

/-- **A clean workspace** has its required files, and its sections and first rules are clean. -/
theorem clean_ofWorkspace_iff :
    Clean (ofWorkspace d root) ↔
      (∀ place ∈ Layout.required, d.exists? (Path.join root place) = true) ∧
        Clean (rulesSection.inspect d root) ∧ Clean (commandsSection.inspect d root) ∧
          Clean (cursorRules d root) := by
  simp only [ofWorkspace, clean_sequence_iff, List.forall_mem_append, List.forall_mem_map,
    List.forall_mem_cons, clean_requiredFile_iff, clean_hooks]
  simp

end Checks

end WorkspaceTemplates.Inspection

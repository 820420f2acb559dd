/-
  WorkspaceTemplates/Proofs/Inspection/Validator.lean
  ===================================================
  **Validators that keep their findings.**

  A validator holds the findings of its last run.  A run clears them and makes one
  check after the other, each of which pushes what it finds and may stop the run, so
  that the findings are built up step by step in the validator.  They are those of the
  inspection of the workspace, which has no state at all (`validateAll_eq`): nothing
  that an earlier run left behind is seen.
-/
import WorkspaceTemplates.Inspection

namespace WorkspaceTemplates

/-- A validator of the workspace at a root, with what its last run found. -/
structure Validator where
  root : String
  findings : List Finding
deriving DecidableEq, Repr

/-- A check that pushes findings and may stop at a fault, keeping what it pushed. -/
abbrev CheckM := Stateful Fault (List Finding)

namespace CheckM

/-- Forget all findings. -/
def clear : CheckM Unit := set ([] : List Finding)

/-- Note one more finding. -/
def push (name : String) (status : CheckStatus) (message : String) : CheckM Unit :=
  modify fun findings => findings ++ [⟨name, status, message⟩]

/-! ### The checks -/

/-- Push whether the files that every workspace has are there. -/
def requiredFiles (disk : Disk) (root : String) : List String → CheckM Unit
  | [] => return ()
  | place :: rest => do
    let name :=
      "file_exists_" ++ String.ofList (place.toList.map fun c => if c = '/' then '_' else c)
    if disk.exists? (Path.join root place) then push name .pass ("File exists: " ++ place)
    else push name .fail ("File missing: " ++ place)
    requiredFiles disk root rest

/-- Push whether the tokens of a file are all replaced, given what reading the file gives. -/
def placeholders (content : Except Fault String) (name shown : String) : CheckM Unit := do
  match content with
  | .error f => throw f
  | .ok text =>
    let v := Engine.validate text
    if v.isComplete then push name .pass ("No unreplaced placeholders in " ++ shown)
    else
      push name .fail
        ("Unreplaced placeholders found in " ++ shown ++ ": " ++ ", ".intercalate v.remaining)

/-- Push what there is to say of the text of a list. -/
def manifestText (s : Inspection.Section) (text : String) : CheckM Unit :=
  let name := s.key ++ "_manifest_valid"
  match Json.parse? text with
  | none => push name .error ("invalid JSON in " ++ s.key ++ " manifest: malformed text")
  | some j =>
    match j.member? s.key with
    | some entries =>
      let count := (entries.array?.map List.length).getD 0
      push name .pass (s.key ++ " manifest contains " ++ count.repr ++ " " ++ s.key)
    | none => push name .fail (s.key ++ " manifest missing \"" ++ s.key ++ "\" key")

/-- Push what there is to say of files of a section, one after another. -/
def generatedFiles (s : Inspection.Section) (disk : Disk) (dir : String) :
    List FileName → CheckM Unit
  | [] => return ()
  | name :: rest => do
    placeholders (disk.readTextIn dir name)
      (s.singular ++ "_file_" ++ name.shown ++ "_no_placeholders") name.shown
    generatedFiles s disk dir rest

/-- Check a directory with a list, returning early when it is not there. -/
def inspectSection (s : Inspection.Section) (disk : Disk) (root : String) : CheckM Unit := do
  let dir := Path.join root s.dir
  let shown := Path.display root dir
  if !disk.isDir dir then
    let name := s.key ++ "_directory_exists"
    if s.isOptional then push name .skip (shown ++ " directory does not exist (optional)")
    else push name .fail (shown ++ " directory does not exist")
  else
    let path := Path.join root s.manifest
    if disk.exists? path then
      match disk.readText path with
      | .error f => throw f
      | .ok text => manifestText s text
    generatedFiles s disk dir (disk.filesWithExtension dir "mdc")

/-- Check the rules that are read first, if they are there. -/
def cursorRules (disk : Disk) (root : String) : CheckM Unit := do
  let path := Path.join root Layout.cursorRules
  if disk.exists? path then
    placeholders (disk.readText path) "cursorrules_no_placeholders" Layout.cursorRules

/-- Check the hooks. -/
def hooks (disk : Disk) (root : String) : CheckM Unit := do
  let dir := Path.join root Layout.hooksDir
  if !disk.isDir dir then
    push "hooks_directory_exists" .skip
      (Layout.hooksDir ++ " directory does not exist (optional)")
  else
    let count := (disk.entries dir).length
    if count > 0 then
      push "hooks_present" .pass ("Found " ++ count.repr ++ " hook file(s)")
    else push "hooks_present" .skip "Hooks directory exists but is empty"

/-- Forget the findings of an earlier run and make every check. -/
def all (disk : Disk) (root : String) : CheckM Unit := do
  clear
  requiredFiles disk root Layout.required
  inspectSection Inspection.rulesSection disk root
  inspectSection Inspection.commandsSection disk root
  cursorRules disk root
  hooks disk root

end CheckM

namespace Validator

/-- Check the workspace.  The findings replace those of an earlier run, also when a fault ends the
run. -/
def validateAll (v : Validator) (disk : Disk) : Except Fault Unit × Validator :=
  let (result, findings) := (CheckM.all disk v.root).runOn v.findings
  (result, { v with findings := findings })

/-- The summary of the last run. -/
def summary (v : Validator) : Summary := Summary.ofStatuses (v.findings.map (·.status))

end Validator

/-! ### Pushing what an inspection finds -/

namespace Inspection

/-- How the inspection ended. -/
def result (i : Inspection) : Except Fault Unit :=
  match i.fault? with
  | some f => .error f
  | none => .ok ()

/-- One inspection and then another one, unless a fault ended the first. -/
def andThen (i j : Inspection) : Inspection :=
  match i.fault? with
  | some f => ⟨i.findings, some f⟩
  | none => ⟨i.findings ++ j.findings, j.fault?⟩

theorem sequence_cons (i : Inspection) (is : List Inspection) :
    sequence (i :: is) = i.andThen (sequence is) := rfl

theorem andThen_nothing (i : Inspection) : i.andThen nothing = i := by
  obtain ⟨findings, fault | fault⟩ := i
  · rw [andThen, nothing, List.append_nil]
  · rfl

theorem nothing_andThen (i : Inspection) : nothing.andThen i = i := rfl

theorem andThen_assoc (i j k : Inspection) :
    (i.andThen j).andThen k = i.andThen (j.andThen k) := by
  obtain ⟨findings, _ | f⟩ := i
  · obtain ⟨findings', _ | f⟩ := j
    · simp only [andThen, List.append_assoc]
    · rfl
  · rfl

theorem sequence_append (is js : List Inspection) :
    sequence (is ++ js) = (sequence is).andThen (sequence js) := by
  induction is with
  | nil => rfl
  | cons i is ih => rw [List.cons_append, sequence_cons, sequence_cons, ih, andThen_assoc]

/-- No fault ends a sequence exactly when none ends a part of it. -/
theorem fault?_sequence_eq_none_iff {is : List Inspection} :
    (sequence is).fault? = none ↔ ∀ i ∈ is, i.fault? = none := by
  induction is with
  | nil => simp [sequence, nothing]
  | cons i is ih =>
    rw [List.forall_mem_cons, ← ih, sequence_cons, andThen]
    cases h : i.fault? with
    | some f => simp
    | none => simp

/-- The checks of a workspace, one after another. -/
theorem ofWorkspace_eq (disk : Disk) (root : String) :
    ofWorkspace disk root =
      (sequence (Layout.required.map (requiredFile disk root))).andThen
        ((rulesSection.inspect disk root).andThen
          ((commandsSection.inspect disk root).andThen
            ((cursorRules disk root).andThen (hooks disk root)))) := by
  rw [ofWorkspace, sequence_append]
  simp only [sequence_cons]
  rw [sequence, andThen_nothing]

end Inspection

namespace CheckM

open Inspection Stateful

/-- A check pushes what an inspection finds, whatever was found before, and ends as it does. -/
def Pushes (m : CheckM Unit) (i : Inspection) : Prop :=
  ∀ findings, m.runOn findings = (i.result, findings ++ i.findings)

theorem pushes_push (name : String) (status : CheckStatus) (message : String) :
    Pushes (push name status message) (found name status message) := fun _ => rfl

theorem pushes_pure : Pushes (pure ()) nothing := by
  intro findings
  rw [nothing, List.append_nil]
  rfl

theorem pushes_throw (f : Fault) : Pushes (throw f) ⟨[], some f⟩ := by
  intro findings
  rw [List.append_nil]
  rfl

theorem Pushes.bind {m m' : CheckM Unit} {i j : Inspection} (h : Pushes m i) (h' : Pushes m' j) :
    Pushes (m >>= fun _ => m') (i.andThen j) := by
  intro findings
  rw [runOn_bind, h]
  obtain ⟨found, _ | f⟩ := i
  · simp only [result, andThen, h' (findings ++ found), List.append_assoc]
  · rfl

theorem runOn_clear_bind (m : CheckM Unit) (findings : List Finding) :
    (clear >>= fun _ => m).runOn findings = m.runOn [] := rfl

section Checks

variable (disk : Disk) (root : String)

theorem pushes_requiredFiles (places : List String) :
    Pushes (requiredFiles disk root places) (sequence (places.map (requiredFile disk root))) := by
  induction places with
  | nil => exact pushes_pure
  | cons place places ih =>
    rw [List.map_cons, sequence_cons, requiredFiles, requiredFile]
    simp only
    split
    · exact (pushes_push _ _ _).bind ih
    · exact (pushes_push _ _ _).bind ih

theorem pushes_placeholders (content : Except Fault String) (name shown : String) :
    Pushes (placeholders content name shown) (Inspection.placeholders content name shown) := by
  cases content with
  | error f => exact pushes_throw f
  | ok text =>
    simp only [placeholders, Inspection.placeholders]
    split
    · exact pushes_push _ _ _
    · exact pushes_push _ _ _

theorem pushes_manifestText (s : Inspection.Section) (text : String) :
    Pushes (manifestText s text) (s.manifestText text) := by
  rw [manifestText, Section.manifestText]
  cases Json.parse? text with
  | none => exact pushes_push _ _ _
  | some j =>
    simp only
    cases j.member? s.key with
    | none => exact pushes_push _ _ _
    | some entries => exact pushes_push _ _ _

theorem pushes_generatedFiles (s : Inspection.Section) (dir : String) (names : List FileName) :
    Pushes (generatedFiles s disk dir names)
      (sequence (names.map (s.generatedFile disk dir))) := by
  induction names with
  | nil => exact pushes_pure
  | cons name names ih =>
    rw [List.map_cons, sequence_cons]
    exact (pushes_placeholders _ _ _).bind ih

theorem pushes_inspectSection (s : Inspection.Section) :
    Pushes (inspectSection s disk root) (s.inspect disk root) := by
  rw [inspectSection, Section.inspect]
  simp only
  split
  · split
    · exact pushes_push _ _ _
    · exact pushes_push _ _ _
  · have hfiles := pushes_generatedFiles disk s (Path.join root s.dir)
      (disk.filesWithExtension (Path.join root s.dir) "mdc")
    rw [sequence_cons, Section.manifestFile]
    split
    · cases disk.readText (Path.join root s.manifest) with
      | error f => exact (pushes_throw f).bind hfiles
      | ok text => exact (pushes_manifestText s text).bind hfiles
    · rw [nothing_andThen]
      exact hfiles

theorem pushes_cursorRules : Pushes (cursorRules disk root) (Inspection.cursorRules disk root) := by
  rw [cursorRules, Inspection.cursorRules]
  split
  · exact pushes_placeholders _ _ _
  · exact pushes_pure

theorem pushes_hooks : Pushes (hooks disk root) (Inspection.hooks disk root) := by
  rw [hooks, Inspection.hooks]
  simp only
  split
  · exact pushes_push _ _ _
  · by_cases hempty : (disk.entries (Path.join root Layout.hooksDir)).length = 0
    · rw [if_neg (by omega), if_pos hempty]
      exact pushes_push _ _ _
    · rw [if_pos (by omega), if_neg hempty]
      exact pushes_push _ _ _

/-- All checks push what the inspection of the workspace finds, and nothing is left of the findings
of an earlier run. -/
theorem runOn_all (findings : List Finding) :
    (all disk root).runOn findings =
      ((ofWorkspace disk root).result, (ofWorkspace disk root).findings) := by
  have hchecks := (pushes_requiredFiles disk root Layout.required).bind
    ((pushes_inspectSection disk root rulesSection).bind
      ((pushes_inspectSection disk root commandsSection).bind
        ((pushes_cursorRules disk root).bind (pushes_hooks disk root))))
  rw [ofWorkspace_eq, all, runOn_clear_bind, hchecks, List.nil_append]

end Checks

end CheckM

/-- **A run of a validator is an inspection of the workspace**, whatever an earlier run found. -/
theorem Validator.validateAll_eq (v : Validator) (disk : Disk) :
    v.validateAll disk = ((Inspection.ofWorkspace disk v.root).result,
      ⟨v.root, (Inspection.ofWorkspace disk v.root).findings⟩) := by
  rw [validateAll, CheckM.runOn_all]

end WorkspaceTemplates

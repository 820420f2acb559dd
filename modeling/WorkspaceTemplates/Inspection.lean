/-
  WorkspaceTemplates/Inspection.lean
  ==================================
  **Checking a workspace.**

  An inspection looks at the files that every workspace has, at the lists of its
  rules and commands, at every generated file for tokens that are left, and at its
  hooks.  It ends at the first file that cannot be read, and keeps what it found
  until then.
-/
import WorkspaceTemplates.Engine
import WorkspaceTemplates.Files.Disk
import WorkspaceTemplates.Json.Reader
import WorkspaceTemplates.Layout
import WorkspaceTemplates.Outcome

namespace WorkspaceTemplates

/-- The verdict on one aspect of a workspace. -/
structure Finding where
  name : String
  status : CheckStatus
  message : String
deriving DecidableEq, Repr

/-! ### Summaries -/

structure Summary where
  total : Nat
  passed : Nat
  failed : Nat
  errors : Nat
  skipped : Nat
deriving DecidableEq, Repr

namespace Summary

def ofStatuses (statuses : List CheckStatus) : Summary where
  total := statuses.length
  passed := statuses.count .pass
  failed := statuses.count .fail
  errors := statuses.count .error
  skipped := statuses.count .skip

def allPassed (s : Summary) : Bool := s.failed == 0 && s.errors == 0

/-- The percentage of the checks that passed, of all checks, computed by one rounded division and
    one rounded multiplication. -/
def successRate (s : Summary) : Binary64 :=
  if s.total = 0 then Binary64.zero false
  else
    let rate := do
      let passed ← Binary64.ofNat? s.passed
      let total ← Binary64.ofNat? s.total
      let hundred ← Binary64.ofNat? 100
      (← passed.div? total).mul? hundred
    rate.getD (Binary64.zero false)

end Summary

/-! ### Inspections -/

/-- What was found, and the fault that ended the inspection early. -/
structure Inspection where
  findings : List Finding
  fault? : Option Fault
deriving DecidableEq, Repr

namespace Inspection

def found (name : String) (status : CheckStatus) (message : String) : Inspection :=
  ⟨[⟨name, status, message⟩], none⟩

def nothing : Inspection := ⟨[], none⟩

/-- One inspection after another, up to the first fault. -/
def sequence : List Inspection → Inspection
  | [] => nothing
  | i :: rest =>
    match i.fault? with
    | some f => ⟨i.findings, some f⟩
    | none =>
      let others := sequence rest
      ⟨i.findings ++ others.findings, others.fault?⟩

def summary (i : Inspection) : Summary := Summary.ofStatuses (i.findings.map (·.status))

/-! ### Files -/

def requiredFile (disk : Disk) (root place : String) : Inspection :=
  let name := "file_exists_" ++ String.ofList (place.toList.map fun c => if c = '/' then '_' else c)
  if disk.exists? (Path.join root place) then found name .pass ("File exists: " ++ place)
  else found name .fail ("File missing: " ++ place)

/-- Whether the tokens of a file are all replaced, given what reading the file gives. -/
def placeholders (content : Except Fault String) (name shown : String) : Inspection :=
  match content with
  | .error f => ⟨[], some f⟩
  | .ok text =>
    let v := Engine.validate text
    if v.isComplete then found name .pass ("No unreplaced placeholders in " ++ shown)
    else
      found name .fail
        ("Unreplaced placeholders found in " ++ shown ++ ": " ++ ", ".intercalate v.remaining)

/-! ### Directories with a list -/

/-- A directory of generated files, and the file that lists them. -/
structure Section where
  /-- The key of the list, which also names the checks of the directory. -/
  key : String
  /-- What names the checks of one file. -/
  singular : String
  dir : String
  manifest : String
  /-- Whether a workspace may be without the directory. -/
  isOptional : Bool

def rulesSection : Section :=
  ⟨"rules", "rule", Layout.rulesDir, Layout.rulesManifest, false⟩

def commandsSection : Section :=
  ⟨"commands", "command", Layout.commandsDir, Layout.commandsManifest, true⟩

namespace Section

/-- Whether the text of a list is a JSON object with the key of the section. -/
def manifestText (s : Section) (text : String) : Inspection :=
  let name := s.key ++ "_manifest_valid"
  match Json.parse? text with
  | none => found name .error ("invalid JSON in " ++ s.key ++ " manifest: malformed text")
  | some j =>
    match j.member? s.key with
    | some entries =>
      let count := (entries.array?.map List.length).getD 0
      found name .pass (s.key ++ " manifest contains " ++ count.repr ++ " " ++ s.key)
    | none => found name .fail (s.key ++ " manifest missing \"" ++ s.key ++ "\" key")

def manifestFile (s : Section) (disk : Disk) (root : String) : Inspection :=
  let path := Path.join root s.manifest
  if disk.exists? path then
    match disk.readText path with
    | .error f => ⟨[], some f⟩
    | .ok text => s.manifestText text
  else nothing

/-- The check of one generated file, which is named by the text that the name of the file shows. -/
def generatedFile (s : Section) (disk : Disk) (dir : String) (name : FileName) : Inspection :=
  placeholders (disk.readTextIn dir name)
    (s.singular ++ "_file_" ++ name.shown ++ "_no_placeholders") name.shown

def inspect (s : Section) (disk : Disk) (root : String) : Inspection :=
  let dir := Path.join root s.dir
  let shown := Path.display root dir
  if !disk.isDir dir then
    let name := s.key ++ "_directory_exists"
    if s.isOptional then
      found name .skip (shown ++ " directory does not exist (optional)")
    else found name .fail (shown ++ " directory does not exist")
  else
    -- the list is not compared with the files: files that it does not list are checked too
    sequence (s.manifestFile disk root
      :: (disk.filesWithExtension dir "mdc").map (s.generatedFile disk dir))

end Section

/-! ### The rest -/

/-- The check of the rules that are read first, if they are there. -/
def cursorRules (disk : Disk) (root : String) : Inspection :=
  let path := Path.join root Layout.cursorRules
  if disk.exists? path then
    placeholders (disk.readText path) "cursorrules_no_placeholders" Layout.cursorRules
  else nothing

def hooks (disk : Disk) (root : String) : Inspection :=
  let dir := Path.join root Layout.hooksDir
  if !disk.isDir dir then
    found "hooks_directory_exists" .skip
      (Layout.hooksDir ++ " directory does not exist (optional)")
  else
    let count := (disk.entries dir).length
    if count = 0 then found "hooks_present" .skip "Hooks directory exists but is empty"
    else found "hooks_present" .pass ("Found " ++ count.repr ++ " hook file(s)")

def ofWorkspace (disk : Disk) (root : String) : Inspection :=
  sequence (Layout.required.map (requiredFile disk root)
    ++ [rulesSection.inspect disk root, commandsSection.inspect disk root,
      cursorRules disk root, hooks disk root])

end Inspection

end WorkspaceTemplates

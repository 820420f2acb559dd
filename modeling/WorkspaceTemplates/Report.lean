/-
  WorkspaceTemplates/Report.lean
  ==============================
  **What a generation did.**
-/
import WorkspaceTemplates.Fault
import WorkspaceTemplates.Json.Reader
import WorkspaceTemplates.Json.Record
import WorkspaceTemplates.Outcome

namespace WorkspaceTemplates

structure GeneratedFile where
  /-- The path relative to the root of the workspace. -/
  path : String
  outcome : WriteOutcome
  /-- The names of its template that had no value. -/
  missing : List String
deriving DecidableEq, Repr

/-- What became of the files of a workspace, in the order in which they were written. -/
structure Report where
  files : List GeneratedFile
deriving DecidableEq, Repr

namespace GeneratedFile

/-- A file in JSON; without missing names they are left out. -/
def toJson (f : GeneratedFile) : Json :=
  .object ([("path", .string f.path), ("outcome", .string f.outcome.name)]
    ++ if f.missing.isEmpty then [] else [("missing", Json.strings f.missing)])

def shape : Json.Shape := .record [("path", .whole), ("outcome", .whole), ("missing", .whole)]

def ofJson? (j : Json) : Option GeneratedFile :=
  match j.fields? ["path", "outcome", "missing"] with
  | some [some path, some outcome, missing] => do
    let path ← path.string?
    let outcome ← outcome.choiceName?.bind WriteOutcome.ofName?
    let missing ← Json.orElse Json.strings? [] missing
    return ⟨path, outcome, missing⟩
  | _ => none

end GeneratedFile

namespace Report

def written (r : Report) : List GeneratedFile := r.files.filter fun f => f.outcome != .skipped

def hasMissing (r : Report) : Bool := r.files.any fun f => !f.missing.isEmpty

def toJson (r : Report) : Json := .object [("files", .array (r.files.map GeneratedFile.toJson))]

def shape : Json.Shape := .record [("files", .list GeneratedFile.shape)]

def ofJson? (j : Json) : Option Report :=
  match j.fields? ["files"] with
  | some [some files] =>
    (files.array?.bind fun items => items.mapM GeneratedFile.ofJson?).map Report.mk
  | _ => none

/-- Read a report from a JSON text.  Members that are no fields may say anything. -/
def ofJsonText (text : String) : Except Fault Report :=
  match (Json.parseShape? shape Json.nestingLimit text).bind ofJson? with
  | some r => .ok r
  | none => .error .json

end Report

end WorkspaceTemplates

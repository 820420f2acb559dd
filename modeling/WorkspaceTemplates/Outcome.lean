/-
  WorkspaceTemplates/Outcome.lean
  ===============================
  **Outcomes of writing a file and of checking one.**
-/
import WorkspaceTemplates.Json.Basic

namespace WorkspaceTemplates

inductive WriteOutcome where
  | created
  | overwritten
  | skipped
deriving DecidableEq, Repr

namespace WriteOutcome

def all : List WriteOutcome := [.created, .overwritten, .skipped]

def name : WriteOutcome → String
  | created => "created"
  | overwritten => "overwritten"
  | skipped => "skipped"

def ofName? (text : String) : Option WriteOutcome := all.find? (·.name = text)

end WriteOutcome

inductive CheckStatus where
  | pass
  | fail
  | skip
  | error
deriving DecidableEq, Repr

namespace CheckStatus

def all : List CheckStatus := [.pass, .fail, .skip, .error]

def name : CheckStatus → String
  | pass => "pass"
  | fail => "fail"
  | skip => "skip"
  | error => "error"

def ofName? (text : String) : Option CheckStatus := all.find? (·.name = text)

end CheckStatus

/-- The name that a JSON value gives: a string, or an object with one member, of value null. -/
def Json.choiceName? : Json → Option String
  | .string s => some s
  | .object [(k, .null)] => some k
  | _ => none

end WorkspaceTemplates

/-
  WorkspaceTemplates/Level.lean
  =============================
  **Rule levels.**

  Rules load from the most general level to the most specific one.  The first two
  levels belong to every project; each of the others depends on one key of the
  context.
-/
import WorkspaceTemplates.Fault

namespace WorkspaceTemplates

/-- The levels of rules, from general to specific. -/
inductive Level where
  | core
  | architecture
  | projectType
  | language
  | framework
deriving DecidableEq, Repr

namespace Level

def all : List Level := [.core, .architecture, .projectType, .language, .framework]

theorem mem_all (l : Level) : l ∈ all := by cases l <;> decide

/-- The number of a level, counted from one. -/
def number : Level → Nat
  | core => 1
  | architecture => 2
  | projectType => 3
  | language => 4
  | framework => 5

def name : Level → String
  | core => "core"
  | architecture => "architecture"
  | projectType => "project-type"
  | language => "language"
  | framework => "framework"

def fileName (l : Level) : String :=
  "level" ++ l.number.repr ++ "-" ++ l.name ++ ".mdc"

/-- The key of the context that decides whether a level is generated. -/
def gatingKey? : Level → Option String
  | core | architecture => none
  | projectType => some "project_type"
  | language => some "primary_language"
  | framework => some "framework"

/-- Whether a level is loaded for every project. -/
def alwaysLoad (l : Level) : Bool := l.gatingKey?.isNone

def description : Level → String
  | core => "Core rules and principles"
  | architecture => "Architecture and design patterns"
  | projectType => "Project type-specific rules"
  | language => "Language-specific rules"
  | framework => "Framework-specific rules"

/-- The texts that name a level: its number, its name, and the name with an underscore. -/
def spellings (l : Level) : List String :=
  match l with
  | projectType => [l.number.repr, l.name, "project_type"]
  | _ => [l.number.repr, l.name]

def ofText? (text : String) : Option Level :=
  all.find? fun l => l.spellings.contains text

def parse (text : String) : Except Fault Level :=
  match ofText? text with
  | some l => .ok l
  | none => .error (.unknownRuleLevel text)

/-- The level of a name, which may not be a number. -/
def ofName? (text : String) : Option Level :=
  all.find? (·.name = text)

end Level

end WorkspaceTemplates

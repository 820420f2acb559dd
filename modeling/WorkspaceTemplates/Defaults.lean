/-
  WorkspaceTemplates/Defaults.lean
  ================================
  **Default values.**

  A table of defaults says which keys every context has once it is completed.  The
  first entry of a key counts.
-/
import WorkspaceTemplates.Value

namespace WorkspaceTemplates

/-- The value that a missing key gets. -/
inductive DefaultValue where
  | text (s : String)
  | emptyList
  | emptyMap
deriving DecidableEq, Repr

def DefaultValue.toValue : DefaultValue → Value
  | .text s => .text s
  | .emptyList => .list []
  | .emptyMap => .ofDictionary Dictionary.empty

abbrev Defaults := List (String × DefaultValue)

namespace Defaults

/-- The text of `technologies` that stands for nothing known. -/
def unknownTechnologies : String := "Unknown"

def standard : Defaults :=
  [("project_name", .text "Project"),
    ("project_type", .text "unknown"),
    ("primary_language", .text "unknown"),
    ("framework", .text "unknown"),
    ("frameworks", .emptyList),
    ("technologies", .text unknownTechnologies),
    ("architecture", .text "unknown"),
    ("deployment_type", .text "unknown"),
    ("coding_standards", .text "unknown"),
    ("file_organization", .text "standard"),
    ("testing_framework", .text "unknown"),
    ("services", .emptyList),
    ("ports", .emptyList),
    ("databases", .emptyList),
    ("networking", .emptyMap),
    ("project_description", .text ""),
    ("project_purpose", .text ""),
    ("key_concepts", .emptyList),
    ("documentation_sources", .emptyList),
    ("containerization", .emptyList),
    ("orchestration", .emptyList),
    ("cloud_platforms", .emptyList),
    ("linting_tools", .emptyList),
    ("formatting_tools", .emptyList),
    ("build_tools", .emptyList)]

/-- The default of a key: its first entry. -/
def get? (defaults : Defaults) (key : String) : Option DefaultValue :=
  defaults.lookup key

end Defaults

end WorkspaceTemplates

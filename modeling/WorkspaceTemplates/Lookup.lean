/-
  WorkspaceTemplates/Lookup.lean
  ==============================
  **From placeholder names to keys.**

  A name is looked up under its alias, then in lower case, then, for a name of
  one piece, with its words joined by underscores, and last, for a key of several
  pieces, in camel case.  The first of these keys that the context has is taken.
-/
import WorkspaceTemplates.Context
import WorkspaceTemplates.Value.Display
import WorkspaceTemplates.Words

namespace WorkspaceTemplates

/-- A table from placeholder names to keys.  The first entry of a name counts. -/
abbrev Aliases := List (String × String)

namespace Aliases

def standard : Aliases :=
  [("PROJECT_NAME", "project_name"),
    ("PRIMARY_LANGUAGE", "primary_language"),
    ("PROJECT_TYPE", "project_type"),
    ("CODING_STANDARDS", "coding_standards"),
    ("FILE_ORGANIZATION", "file_organization"),
    ("TESTING_FRAMEWORK", "testing_framework"),
    ("ARCHITECTURE", "architecture"),
    ("DEPLOYMENT_TYPE", "deployment_type"),
    ("NETWORKING", "networking"),
    ("TECHNOLOGIES", "technologies"),
    ("SERVICES", "services"),
    ("PORTS", "ports"),
    ("DATABASE", "databases"),
    ("FRAMEWORK", "framework"),
    ("FRAMEWORKS", "frameworks"),
    ("LANGUAGES", "languages"),
    ("PROJECT_DESCRIPTION", "project_description"),
    ("PROJECT_PURPOSE", "project_purpose"),
    ("KEY_CONCEPTS", "key_concepts"),
    ("DOCUMENTATION_SOURCES", "documentation_sources"),
    ("LINTING_TOOLS", "linting_tools"),
    ("FORMATTING_TOOLS", "formatting_tools"),
    ("CONTAINERIZATION", "containerization"),
    ("ORCHESTRATION", "orchestration"),
    ("CLOUD_PLATFORMS", "cloud_platforms"),
    ("BUILD_TOOLS", "build_tools")]

def get? (aliases : Aliases) (name : String) : Option String :=
  aliases.lookup name

end Aliases

namespace Lookup

/-- Whether a key has several pieces joined by underscores. -/
def isCompound (key : String) : Bool := key.toList.contains '_'

/-- The keys tried for a name, in order. -/
def candidates (aliases : Aliases) (name : String) : List String :=
  let lowered := Text.lower name
  -- a name with underscores is cut already: its words are not looked for
  let spelled := if isCompound lowered then lowered else Words.snakeCase name
  (aliases.get? name).toList ++ [lowered] ++
    (if isCompound lowered then [] else [spelled]) ++
    (if isCompound spelled then [Words.camelCase spelled] else [])

def key? (aliases : Aliases) (name : String) (ctx : Context) : Option String :=
  (candidates aliases name).find? ctx.contains

def resolve? (aliases : Aliases) (name : String) (ctx : Context) : Option String :=
  (key? aliases name ctx).bind fun key => (ctx.get? key).map Value.display

end Lookup

end WorkspaceTemplates

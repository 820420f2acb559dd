/-
  WorkspaceTemplates/Yaml/Token.lean
  ==================================
  **Tokens of YAML texts.**
-/
import WorkspaceTemplates.Yaml.Tag

namespace WorkspaceTemplates.Yaml

inductive ScalarStyle where
  | plain
  | singleQuoted
  | doubleQuoted
  | literal
  | folded
deriving DecidableEq, Repr

/-- A token.  Indentation shows as the start and end of block collections. -/
inductive Token where
  | streamEnd
  | versionDirective (major minor : Nat)
  | tagDirective (handle : String) (replacement : Tag)
  | documentStart
  | documentEnd
  | blockSequenceStart
  | blockMappingStart
  | blockEnd
  | flowSequenceStart
  | flowSequenceEnd
  | flowMappingStart
  | flowMappingEnd
  | blockEntry
  | flowEntry
  | key
  | value
  | alias (name : String)
  | anchor (name : String)
  | tag (handle : String) (suffix : Tag)
  | scalar (style : ScalarStyle) (text : String)
deriving DecidableEq, Repr

end WorkspaceTemplates.Yaml

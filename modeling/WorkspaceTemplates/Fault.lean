/-
  WorkspaceTemplates/Fault.lean
  =============================
  **What can go wrong.**

  One type of causes for the whole library, and the wording of each cause.
-/

namespace WorkspaceTemplates

/-- Why an operation on files or on a stream failed. -/
inductive FileError where
  /-- The path names nothing. -/
  | notFound
  /-- A file was wanted where a directory stands. -/
  | isADirectory
  /-- A path goes through something that is no directory. -/
  | notADirectory
  /-- A directory was wanted where something else stands. -/
  | alreadyExists
  /-- The bytes are not UTF-8. -/
  | invalidData
  /-- The path is not acceptable at all. -/
  | invalidInput
  /-- The path or one of its names is too long. -/
  | invalidFilename
  /-- The path names a directory by dots, which cannot be replaced. -/
  | resourceBusy
  /-- The reader of an output has gone away. -/
  | brokenPipe
deriving DecidableEq, Repr

/-- Why an operation of this library failed. -/
inductive Fault where
  /-- No template is known under this name or path. -/
  | templateNotFound (name : String)
  /-- The text names no rule level. -/
  | unknownRuleLevel (text : String)
  /-- The text names no kind of command. -/
  | unknownCommandKind (text : String)
  /-- The text names no condition. -/
  | unknownCondition (text : String)
  /-- Some placeholders of a file have no value although all must have one. -/
  | unresolved (label : String) (missing : List String)
  /-- An interview was given up. -/
  | cancelled (reason : String)
  /-- A file or stream failed. -/
  | file (cause : FileError)
  /-- A text is not the YAML document that is wanted. -/
  | yaml
  /-- A text is not the JSON document that is wanted. -/
  | json
deriving DecidableEq, Repr

namespace Fault

def fileMessage : FileError → String
  | .notFound => "No such file or directory (os error 2)"
  | .isADirectory => "Is a directory (os error 21)"
  | .notADirectory => "Not a directory (os error 20)"
  | .alreadyExists => "File exists (os error 17)"
  | .invalidData => "stream did not contain valid UTF-8"
  | .invalidInput => "Invalid argument (os error 22)"
  | .invalidFilename => "File name too long (os error 36)"
  | .resourceBusy => "Device or resource busy (os error 16)"
  | .brokenPipe => "broken pipe"

def message : Fault → String
  | .templateNotFound name => "template not found: " ++ name
  | .unknownRuleLevel text =>
    "unknown rule level '" ++ text
      ++ "': expected 1-5 or core, architecture, project-type, language, framework"
  | .unknownCommandKind text =>
    "unknown command kind '" ++ text ++ "': expected test, build, deploy or docker"
  | .unknownCondition text => "unknown condition: " ++ text
  | .unresolved label missing =>
    "missing placeholders in " ++ label ++ ": " ++ ", ".intercalate missing
  | .cancelled reason => "interview cancelled: " ++ reason
  | .file cause => fileMessage cause
  | .yaml => "invalid YAML"
  | .json => "invalid JSON"

end Fault

end WorkspaceTemplates

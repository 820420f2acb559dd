/-
  WorkspaceTemplates/Cli/Run.lean
  ===============================
  **Running the program.**

  A run prints to its output, may change the disk, and ends well or with a message.
  What was printed before a message stays printed.  Arguments that are wrong end a
  run with the code 2, everything else that fails with the code 1.  A table that
  cannot be laid out breaks the run off with the code 101.
-/
import WorkspaceTemplates.Cli.Arguments
import WorkspaceTemplates.Cli.Root
import WorkspaceTemplates.Cli.Table
import WorkspaceTemplates.Config.Reader
import WorkspaceTemplates.Context.File
import WorkspaceTemplates.Generate
import WorkspaceTemplates.Inspection
import WorkspaceTemplates.Interview
import WorkspaceTemplates.Value.Display

namespace WorkspaceTemplates.Cli

/-- What a run of the program finds around it. -/
structure World where
  disk : Disk
  /-- The root that the environment gives. -/
  envRoot? : Option String
  /-- The lines of the standard input. -/
  input : Script
  /-- The time that is noted in results. -/
  time : String

/-- The state of a run. -/
structure Console where
  disk : Disk
  printed : String
  /-- The bytes of the prompts. -/
  prompts : List UInt8

/-- Why a run ends early. -/
inductive Failure where
  /-- Something failed, for a reason that is told. -/
  | message (text : String)
  /-- A table has a column that is too wide, which breaks the run off. -/
  | tooWide
deriving DecidableEq, Repr

/-- The same failure with a text in front of its message. -/
def Failure.explained (text : String) : Failure → Failure
  | .message told => .message (text ++ ": " ++ told)
  | .tooWide => .tooWide

/-- A computation that prints, may change the disk, and may end early. -/
abbrev CliM := Stateful Failure Console

namespace CliM

def fail {α : Type} (message : String) : CliM α := throw (.message message)

def print (text : String) : CliM Unit :=
  modify fun c => { c with printed := c.printed ++ text }

def printLine (text : String) : CliM Unit := print (text ++ "\n")

def printJson (j : Json) : CliM Unit := printLine j.pretty

def printTable (headers : List String) (rows : List (List String)) : CliM Unit :=
  match Table.text? headers rows with
  | some text => print text
  | none => throw .tooWide

/-- Use the disk; a fault becomes the message. -/
def onDisk {α : Type} (act : DiskM α) : CliM α := do
  let c ← get
  let (result, disk) := act.runOn c.disk
  set { c with disk }
  match result with
  | .ok x => return x
  | .error f => fail f.message

def onLook {α : Type} (look : Disk → Except Fault α) : CliM α := onDisk (DiskM.demand look)

def explain {α : Type} (text : String) (act : CliM α) : CliM α :=
  tryCatch act fun failure => throw (failure.explained text)

end CliM

open CliM

/-! ### Loading -/

def loadContext (path : String) : CliM Context :=
  explain ("failed to load context " ++ path) (onLook fun d => Context.load d path)

def loadTemplate (path : String) : CliM String :=
  explain ("failed to read template " ++ path) (onLook fun d => Template.load d path)

/-! ### Templates -/

def render (template context : String) (strict json : Bool) : CliM Unit := do
  let text ← loadTemplate template
  let ctx ← loadContext context
  if strict then
    match Engine.standard.renderStrict text ctx template with
    | .error f => fail f.message
    | .ok output =>
      if json then printJson (.object [("missing", .array []), ("output", .string output)])
      else print output
  else
    let r := Engine.standard.render text ctx
    if json then
      printJson (.object [("output", .string r.output), ("missing", Json.strings r.missing)])
    else print r.output

/-- Say which names of a template have no value. -/
def check (template context : String) (json : Bool) : CliM Unit := do
  let text ← loadTemplate template
  let ctx ← loadContext context
  let c := Engine.standard.check text ctx
  if json then
    printJson (.object [("valid", .bool c.isValid), ("missing", Json.strings c.missing)])
  else if c.isValid then printLine "All placeholders resolve."
  else print (Text.ofLines ("Missing context variables:" :: c.missing.map ("  " ++ ·)))
  if c.isValid then return ()
  else fail (c.missing.length.repr ++ " placeholder(s) cannot be resolved")

def showContext (context : String) (json : Bool) : CliM Unit := do
  let ctx ← loadContext context
  let completed := Engine.standard.normalize ctx
  if json then printJson (.object (Value.toMembers completed.entries))
  else printTable ["KEY", "VALUE"] (completed.entries.map fun e => [e.1, e.2.display])

/-! ### Workspaces -/

/-- Options of the command line that go before those of the configuration. -/
structure Overrides where
  templates? : Option String
  strict : Bool
  noOverwrite : Bool

def generateWorkspace (root : String) (ctx : Context) (o : Overrides) : CliM Report := do
  let config ← explain "failed to load scaffold.yaml" (onLook fun d => Config.load d root)
  let options : GenerateOptions :=
    ⟨config.strict || o.strict, config.overwrite && !o.noOverwrite, config.forcedLevels⟩
  let templates? := o.templates?.orElse fun _ => config.templatesPath? root
  match templates? with
  | some dir =>
    if !(← get).disk.isDir dir then
      fail ("templates directory '" ++ dir ++ "' does not exist")
  | none => pure ()
  onDisk (WorkspaceTemplates.generate (TemplateLayer.builtinBelow templates?) options root ctx)

def printReport (r : Report) (json : Bool) : CliM Unit := do
  if json then printJson r.toJson
  else
    printTable ["FILE", "OUTCOME", "MISSING"]
      (r.files.map fun f => [f.path, f.outcome.name, ", ".intercalate f.missing])
    if r.hasMissing then
      printLine "\nSome placeholders were left empty. Re-run with --strict to fail instead."

def generate (root context : String) (o : Overrides) (json : Bool) : CliM Unit := do
  let ctx ← loadContext context
  printReport (← generateWorkspace root ctx o) json

def defaultContextFile : String := "project_context.yaml"

/-- Hold an interview and save the context, and generate a workspace from it if that is asked. -/
def interview (root : String) (input : Script) (out? : Option String)
    (generates json : Bool) : CliM Unit := do
  let (result, dialogue) := Interview.run Engine.standard input none
  modify fun c => { c with prompts := dialogue.output }
  match result with
  | .error f => fail f.message
  | .ok ctx =>
    let path := out?.getD (Path.join root defaultContextFile)
    explain ("failed to save context to " ++ path) (onDisk (Context.save ctx path))
    if generates then printReport (← generateWorkspace root ctx ⟨none, false, false⟩) json
    else if json then
      printJson (.object [("context", .object (Value.toMembers ctx.entries)),
        ("context_file", .string path)])
    else printLine ("Context saved to " ++ path)

/-! ### Checks -/

def findingJson (time : String) (f : Finding) : Json :=
  .object [("message", .string f.message), ("name", .string f.name),
    ("status", .string f.status.name), ("timestamp", .string time)]

def summaryJson (s : Summary) : Json :=
  .object [("all_passed", .bool s.allPassed), ("errors", Json.ofNat s.errors),
    ("failed", Json.ofNat s.failed), ("passed", Json.ofNat s.passed),
    ("skipped", Json.ofNat s.skipped), ("success_rate", .number (.real s.successRate)),
    ("total", Json.ofNat s.total)]

def summaryText (s : Summary) : String :=
  s.total.repr ++ " checks: " ++ s.passed.repr ++ " passed, " ++ s.failed.repr ++ " failed, "
    ++ s.errors.repr ++ " errors, " ++ s.skipped.repr ++ " skipped ("
    ++ Decimal.oneDecimal s.successRate ++ "%)"

def validate (root time : String) (json : Bool) : CliM Unit := do
  let i := Inspection.ofWorkspace (← get).disk root
  match i.fault? with
  | some f => fail f.message
  | none =>
    let s := i.summary
    if json then
      printJson (.object [("results", .array (i.findings.map (findingJson time))),
        ("summary", summaryJson s)])
    else
      printTable ["STATUS", "CHECK", "MESSAGE"]
        (i.findings.map fun f => [f.status.name, f.name, f.message])
      printLine ("\n" ++ summaryText s)
    if s.allPassed then return () else fail "workspace validation failed"

/-! ### Configurations -/

def loadConfig (root : String) : CliM Config :=
  explain "failed to load config" (onLook fun d => Config.load d root)

def showConfig (root : String) (json : Bool) : CliM Unit := do
  let c ← loadConfig root
  if json then printJson c.toJson else print c.yamlText

def warningJson (w : ConfigWarning) : Json :=
  .object [("level", .string w.severity.name), ("message", .string w.message)]

def validateConfig (root : String) (json : Bool) : CliM Unit := do
  let c ← loadConfig root
  let warnings := c.warnings (← get).disk root
  if json then printJson (.object [("warnings", .array (warnings.map warningJson))])
  else if warnings.isEmpty then printLine "Config is valid. No warnings."
  else print (Text.ofLines (warnings.map fun w => "[" ++ w.severity.name ++ "] " ++ w.message))
  if warnings.any (·.severity == .error) then fail "config validation found errors"

/-! ### Runs -/

def perform (w : World) (i : Invocation) : CliM Unit :=
  let root := resolveRoot w.disk i.root?
  match i.action with
  | .render template context strict => render template context strict i.json
  | .check template context => check template context i.json
  | .context context => showContext context i.json
  | .generate context templates? strict noOverwrite =>
    generate root context ⟨templates?, strict, noOverwrite⟩ i.json
  | .interview out? generates => interview root w.input out? generates i.json
  | .validate => validate root w.time i.json
  | .configShow => showConfig root i.json
  | .configValidate => validateConfig root i.json

structure RunResult where
  code : UInt8
  printed : String
  message? : Option String
  prompts : List UInt8
  disk : Disk

def run (args : List String) (w : World) : RunResult :=
  match parse args w.envRoot? with
  | .error .misuse => ⟨2, "", none, [], w.disk⟩
  | .error (.print text) => ⟨0, text, none, [], w.disk⟩
  | .ok i =>
    let (result, c) := (perform w i).runOn ⟨w.disk, "", []⟩
    match result with
    | .ok () => ⟨0, c.printed, none, c.prompts, c.disk⟩
    | .error (.message message) => ⟨1, c.printed, some message, c.prompts, c.disk⟩
    | .error .tooWide => ⟨101, c.printed, none, c.prompts, c.disk⟩

end WorkspaceTemplates.Cli

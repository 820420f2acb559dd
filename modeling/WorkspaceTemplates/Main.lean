/-
  WorkspaceTemplates/Main.lean
  ============================
  **The program.**

  What a run decides is decided by `Cli.run`.  Here the files that it may look at are
  read into a tree, the lines of an interview are read as they are asked for, and
  afterwards the text is printed and the files that changed are written.
-/
import WorkspaceTemplates.Cli.Run
import WorkspaceTemplates.Cli.Timestamp

namespace WorkspaceTemplates.Cli.Shell

/-! ### Reading files -/

/-- What stands at a path; of a directory only that it is one. -/
def glance (path : String) : IO (Option Tree) := do
  let p := (← IO.currentDir) / path
  if ← p.isDir then return some Tree.emptyDir
  else if ← p.pathExists then return some (.file (← IO.FS.readBinFile p))
  else return none

/-- What stands at a path, directories with all that is in them under a name that is a text. -/
partial def readAll (path : String) : IO (Option Tree) := do
  match ← glance path with
  | some (.dir _ _) =>
    let mut entries := []
    for e in ← ((← IO.currentDir) / path).readDir do
      match ← readAll (Path.join path e.fileName) with
      | some t => entries := Entries.insert e.fileName t entries
      | none => pure ()
    return some (.folder entries)
  | t => return t

/-- Take into a tree what stands at each place that segments lead to, up to the first that is
    vacant.  The place that is reached is given back. -/
def takeAlong (t : Tree) (place : Location) : List String → IO (Tree × Option Location)
  | [] => return (t, some place)
  | s :: rest => do
    if Path.isIdle s then takeAlong t place rest
    else if s == ".." then takeAlong t place.dropLast rest
    else
      let next := place ++ [s]
      if (t.find? next).isSome then takeAlong t next rest
      else
        match ← glance (Disk.pathOf next) with
        | some u => takeAlong (t.put place s u) next rest
        | none => return (t, none)

/-- Take into a disk what stands at a path and on the way to it; of a directory all that is in it
    if that is wanted. -/
def take (whole : Bool) (d : Disk) (path : String) : IO Disk := do
  let (t, reached) ← takeAlong d.tree (d.origin path) (Path.segments path)
  match whole, reached with
  | true, some place =>
    match ← readAll (Disk.pathOf place) with
    | some u => return { d with tree := t.put place.dropLast (place.getLast?.getD "") u }
    | none => return { d with tree := t }
  | _, _ => return { d with tree := t }

/-- The files that a run may look at before it knows its root. -/
def takeMarkers (d : Disk) : IO Disk := do
  let mut d := d
  for place in upwards d.workDir do
    d ← take false d (Path.join (Disk.pathOf place) Layout.cursorDir)
    d ← take false d (Path.join (Disk.pathOf place) ".git")
  return d

def namedFiles : Action → List String
  | .render template context _ | .check template context => [template, context]
  | .context context | .generate context .. => [context]
  | .interview out? _ => out?.toList
  | .validate | .configShow | .configValidate => []

def takeFiles (d : Disk) (i : Invocation) : IO Disk := do
  let mut d ← takeMarkers d
  let root := resolveRoot d i.root?
  for path in namedFiles i.action do
    d ← take false d path
  for place in [Layout.cursorRules, Layout.config, defaultContextFile] do
    d ← take false d (Path.join root place)
  d ← take true d (Path.join root Layout.cursorDir)
  let given? :=
    match i.action with
    | .generate _ templates? _ _ => templates?
    | _ => none
  let configured? :=
    match Config.load d root with
    | .ok c => c.templatesPath? root
    | .error _ => none
  for dir in given?.toList ++ configured?.toList do
    d ← take true d dir
  return d

/-! ### Talking -/

/-- A line of the standard input, if there is one, and nothing inside for one that is not UTF-8. -/
def readLine (input : IO.FS.Stream) : IO (Option (Option String)) := do
  try
    let line ← input.getLine
    return if line.isEmpty then none else some (some line)
  catch _ => return some none

/-- Read the lines that an interview asks for, showing its prompts.  A line that is not UTF-8 after
    those that are known ends the interview exactly when it asks for more. -/
partial def converse (input output : IO.FS.Stream) (known : Script) (shown : Nat) :
    IO (Script × Nat) := do
  let (_, d) := Interview.run Engine.standard (known ++ [none]) none
  output.write ⟨(d.output.drop shown).toArray⟩
  output.flush
  if d.script.isEmpty then
    match ← readLine input with
    | some line => converse input output (known ++ [line]) d.output.length
    | none => return (known, d.output.length)
  else return (known, d.output.length)

/-! ### Writing files -/

/-- Write the files that changed, each under another name first, and make the directories that are
    new. -/
def store (before after : Tree) : IO Unit := do
  for (place, t) in after.walk do
    let path := Disk.pathOf place
    match t, before.find? place with
    | .dir _ _, some (.dir _ _) => pure ()
    | .dir _ _, _ => IO.FS.createDirAll path
    | .file content, old =>
      let same :=
        match old with
        | some (.file known) => known == content
        | _ => false
      if !same then
        IO.FS.writeBinFile (path ++ "~") content
        IO.FS.rename (path ++ "~") path

/-- The time at which this is run, taken from a new file. -/
def now : IO String := do
  let (_, file) ← IO.FS.createTempFile
  let time := (← file.metadata).modified
  IO.FS.removeFile file
  return Timestamp.text time.sec time.nsec.toNat

end WorkspaceTemplates.Cli.Shell

open WorkspaceTemplates Cli Shell in
def main (args : List String) : IO UInt32 := do
  let output ← IO.getStdout
  let messages ← IO.getStderr
  let envRoot? ← IO.getEnv "SCAFFOLD_ROOT"
  let workDir := ((Path.segments (← IO.currentDir).toString).filter fun s => !Path.isIdle s)
  let empty : Disk := ⟨Tree.emptyDir, []⟩
  let around ← take false empty (Disk.pathOf workDir)
  let start : Disk := { around with workDir := workDir }
  let (disk, input, shown) ←
    match parse args envRoot? with
    | .ok i => do
      let disk ← takeFiles start i
      match i.action with
      | .interview .. => do
        let (input, shown) ← converse (← IO.getStdin) messages [] 0
        pure (disk, input, shown)
      | _ => pure (disk, [], 0)
    | .error _ => pure (start, [], 0)
  let r := run args ⟨disk, envRoot?, input, ← now⟩
  messages.write ⟨(r.prompts.drop shown).toArray⟩
  store disk.tree r.disk.tree
  output.putStr r.printed
  if r.code == 2 then messages.putStrLn "error: wrong arguments; see --help"
  if r.code == 101 then messages.putStrLn "error: a column of the table is too wide"
  match r.message? with
  | some m => messages.putStrLn ("error: " ++ m)
  | none => pure ()
  return r.code.toUInt32

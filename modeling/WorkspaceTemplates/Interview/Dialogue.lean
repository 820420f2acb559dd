/-
  WorkspaceTemplates/Interview/Dialogue.lean
  ==========================================
  **Prompting and reading answers.**

  A dialogue reads lines from a script and writes prompts to an output, which may
  take only so many bytes and fails on the next one.  Answers are trimmed; a line
  that is not UTF-8 is a fault when it is reached.
-/
import WorkspaceTemplates.Fault
import WorkspaceTemplates.Stateful
import WorkspaceTemplates.Text.Blank
import WorkspaceTemplates.Text.Pieces
import WorkspaceTemplates.Text.Utf8

namespace WorkspaceTemplates

/-! ### Scripts -/

/-- The lines that will be answered, with nothing in place of a line that is not UTF-8. -/
abbrev Script := List (Option String)

namespace Script

/-- Leave out the last piece of a text if it is empty: a line break ends a line. -/
def dropEmptyLast {α : Type} (pieces : List (List α)) : List (List α) :=
  if pieces.getLast?.any List.isEmpty then pieces.dropLast else pieces

def ofText (text : String) : Script :=
  (dropEmptyLast (Text.pieces '\n' text.toList)).map fun line => some (String.ofList line)

def ofBytes (bytes : List UInt8) : Script :=
  (dropEmptyLast (Text.pieces '\n'.toUInt8 bytes)).map fun line => String.fromUTF8? ⟨line.toArray⟩

end Script

/-! ### Dialogues -/

structure Dialogue where
  /-- The lines that are left. -/
  script : Script
  /-- The bytes that were written. -/
  output : List UInt8
  /-- The number of bytes that can still be written, if that is limited. -/
  room : Option Nat
deriving DecidableEq, Repr

/-- A computation that talks and may fail; what was written before a fault stays written. -/
abbrev DialogueM := Stateful Fault Dialogue

namespace Dialogue

def start (script : Script) (room : Option Nat) : Dialogue := ⟨script, [], room⟩

/-- Write bytes, as many as there is room for.  The answer says whether that is all of them. -/
def write (bytes : List UInt8) (d : Dialogue) : Bool × Dialogue :=
  match d.room with
  | none => (true, { d with output := d.output ++ bytes })
  | some n =>
    (bytes.length ≤ n,
      { d with output := d.output ++ bytes.take n, room := some (n - bytes.length) })

end Dialogue

namespace DialogueM

def say (text : String) : DialogueM Unit := do
  let (complete, d) := (← get).write (utf8Bytes text)
  set d
  if complete then return () else throw (.file .brokenPipe)

def sayLine (text : String) : DialogueM Unit := say (text ++ "\n")

def sayLines : List String → DialogueM Unit
  | [] => return ()
  | line :: rest => do
    sayLine line
    sayLines rest

/-- Read a line and trim it; there is none at the end of the script. -/
def readLine : DialogueM (Option String) := do
  let d ← get
  match d.script with
  | [] => return none
  | line :: rest =>
    set { d with script := rest }
    match line with
    | some s => return some (Text.trim s)
    | none => throw (.file .invalidData)

def ask (prompt : String) : DialogueM (Option String) := do
  say prompt
  readLine

/-- Write a prompt and read a line, which is empty at the end of the script. -/
def answer (prompt : String) : DialogueM String := do
  return (← ask prompt).getD ""

/-- The lines of an example, up to the first empty line after them, or the end of the script;
    empty lines before them do not count.  Also the lines that are left. -/
def exampleLines (lines : List String) : Script → Except Fault (List String) × Script
  | [] => (.ok lines, [])
  | none :: rest => (.error (.file .invalidData), rest)
  | some s :: rest =>
    let line := Text.trim s
    if line.isEmpty then
      if lines.isEmpty then exampleLines lines rest else (.ok lines, rest)
    else exampleLines (lines ++ [line]) rest

def readExample : DialogueM (List String) := do
  let d ← get
  let (result, rest) := exampleLines [] d.script
  set { d with script := rest }
  match result with
  | .ok lines => return lines
  | .error f => throw f

end DialogueM

end WorkspaceTemplates

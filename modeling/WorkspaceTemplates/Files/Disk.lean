/-
  WorkspaceTemplates/Files/Disk.lean
  ==================================
  **Files by their paths.**

  A disk is a tree of files with a working directory.  Looking at a disk cannot
  change it; what changes it is a `DiskM`, which keeps every change made before a
  fault.  A file is written under a fresh name beside its place and then moved
  there, so that no reader ever sees half of it.
-/
import WorkspaceTemplates.Fault
import WorkspaceTemplates.Files.Path
import WorkspaceTemplates.Files.Tree
import WorkspaceTemplates.Outcome
import WorkspaceTemplates.Stateful

namespace WorkspaceTemplates

/-- Files and a working directory among them. -/
structure Disk where
  tree : Tree
  /-- The location of the working directory. -/
  workDir : Location

namespace Disk

/-! ### Following paths -/

/-- Where segments lead from a location, given its names from the last to the first and what
    stands there. -/
def followFrom (t : Tree) (back : List String) (here? : Option Tree) :
    List String → Except FileError Location
  | [] => .ok back.reverse
  | s :: rest =>
    match here? with
    | some (.dir entries others) =>
      if Path.isIdle s then followFrom t back (some (.dir entries others)) rest
      -- above the root of all files stands that root again
      else if s == ".." then followFrom t back.tail (t.find? back.tail.reverse) rest
      else if Path.isOverlong s then .error .invalidFilename
      else followFrom t (s :: back) (entries.lookup s) rest
    | some (.file _) => .error .notADirectory
    | none => .error .notFound

/-- Where segments lead from a location.  Each has to start from a directory, and none may be too
    long; the place that they lead to may be vacant. -/
def follow (t : Tree) (place : Location) (segs : List String) : Except FileError Location :=
  followFrom t place.reverse (t.find? place) segs

theorem follow_nil (t : Tree) (place : Location) : follow t place [] = .ok place :=
  congrArg Except.ok place.reverse_reverse

theorem follow_cons (t : Tree) (place : Location) (s : String) (rest : List String) :
    follow t place (s :: rest) =
      match t.find? place with
      | some (.dir _ _) =>
        if Path.isIdle s then follow t place rest
        else if s == ".." then follow t place.dropLast rest
        else if Path.isOverlong s then .error .invalidFilename
        else follow t (place ++ [s]) rest
      | some (.file _) => .error .notADirectory
      | none => .error .notFound := by
  unfold follow
  rw [Tree.find?_concat, List.reverse_concat, ← List.tail_reverse,
    ← List.reverse_reverse place.dropLast, ← List.tail_reverse]
  cases t.find? place with
  | none => rfl
  | some u => cases u <;> rfl

def pathOf (place : Location) : String := "/" ++ Path.ofSegments place

/-- A path that does not depend on the working directory. -/
def absolute (d : Disk) (path : String) : String := Path.join (pathOf d.workDir) path

def origin (d : Disk) (path : String) : Location :=
  if Path.isAbsolute path then [] else d.workDir

/-- Why a path is refused whatever the disk holds: a NUL character, its length, or no text. -/
def refusal? (path : String) : Option FileError :=
  if path.toList.contains '\x00' then some .invalidInput
  else if Path.limit < path.utf8ByteSize then some .invalidFilename
  else if path.isEmpty then some .notFound
  else none

def locate (d : Disk) (path : String) : Except FileError Location :=
  match refusal? path with
  | some e => .error e
  | none => follow d.tree (d.origin path) (Path.segments path)

def look (d : Disk) (path : String) : Except FileError Tree :=
  match d.locate path with
  | .ok place =>
    match d.tree.find? place with
    | some t => .ok t
    | none => .error .notFound
  | .error e => .error e

/-! ### Places for new files -/

/-- The directory in which the last segment of a path stands, slashes at the end aside, and the
    name that it is, unless it is dots.  A path of slashes has no such name either. -/
def slot (d : Disk) (path : String) : Except FileError (Location × Option String) :=
  match refusal? path with
  | some e => .error e
  | none =>
    match (Path.segments path).reverse.dropWhile (· == "") with
    | [] => .ok ([], none)
    | name :: above =>
      -- the dot at the end asks for a directory
      match follow d.tree (d.origin path) (above.reverse ++ ["."]) with
      | .error e => .error e
      | .ok place =>
        if name == "." || name == ".." then .ok (place, none)
        else if Path.isOverlong name then .error .invalidFilename
        else .ok (place, some name)

/-- The bytes that are kept for the name of a file before it is moved, and for the slash before
    that name. -/
def freshRoom : Nat := 11

/-- Where a file of a path is first written: the directory above the path, and its entries. -/
def holder (d : Disk) (path : String) : Except FileError (Location × List (String × Tree)) :=
  let dir := d.absolute (Path.parent path)
  if Path.limit < dir.utf8ByteSize + freshRoom then .error .invalidFilename
  else
    match d.locate dir with
    | .error e => .error e
    | .ok place =>
      match d.tree.find? place with
      | some (.dir entries _) => .ok (place, entries)
      | some (.file _) => .error .notADirectory
      | none => .error .notFound

/-- Where a file can be moved to: the directory that is to hold it, and its name there. -/
def target (d : Disk) (path : String) : Except FileError (Location × String) :=
  match d.slot path with
  | .error e => .error e
  | .ok (_, none) => .error .resourceBusy
  | .ok (place, some name) =>
    -- after a slash at the end only a directory could stand
    if path.toList.getLast? == some '/' then .error .notADirectory
    else if (d.tree.find? (place ++ [name])).any Tree.isDir then .error .isADirectory
    else .ok (place, name)

/-! ### Looking -/

def exists? (d : Disk) (path : String) : Bool :=
  match d.look path with
  | .ok _ => true
  | .error _ => false

def isDir (d : Disk) (path : String) : Bool :=
  match d.look path with
  | .ok t => t.isDir
  | .error _ => false

def isFile (d : Disk) (path : String) : Bool :=
  match d.look path with
  | .ok t => t.isFile
  | .error _ => false

/-- The text of what was found, if that is a file with a text. -/
def textOf : Except FileError Tree → Except Fault String
  | .ok (.file content) =>
    match String.fromUTF8? content with
    | some s => .ok s
    | none => .error (.file .invalidData)
  | .ok (.dir _ _) => .error (.file .isADirectory)
  | .error e => .error (.file e)

def readText (d : Disk) (path : String) : Except Fault String := textOf (d.look path)

/-! ### Looking at a listing -/

/-- The entries of a directory, in the order of their names; a path without a directory has none. -/
def entries (d : Disk) (path : String) : List (FileName × Tree) :=
  match d.look path with
  | .ok t => t.listing
  | .error _ => []

/-- What stands under a name in a directory.  A name that is no text counts towards the length of
    its path like any other. -/
def lookIn (d : Disk) (path : String) : FileName → Except FileError Tree
  | .text s => d.look (Path.join path s)
  | .raw name =>
    -- the dot stands where the name would start, and asks for a directory
    let here := Path.join path "."
    if Path.limit + 1 < here.utf8ByteSize + name.bytes.length then .error .invalidFilename
    else
      match d.look here with
      | .error e => .error e
      | .ok t =>
        match t.others.lookup name with
        | some u => .ok u
        | none => .error .notFound

def readTextIn (d : Disk) (path : String) (name : FileName) : Except Fault String :=
  textOf (d.lookIn path name)

def isFileIn (d : Disk) (path : String) (name : FileName) : Bool :=
  match d.lookIn path name with
  | .ok t => t.isFile
  | .error _ => false

def filesWithExtension (d : Disk) (path extension : String) : List FileName :=
  ((d.entries path).filter fun e =>
    d.isFileIn path e.1 && e.1.hasExtension extension).map (·.1)

end Disk

/-! ### Changing a disk -/

/-- A computation that may change a disk and may fail, keeping what it changed. -/
abbrev DiskM := Stateful Fault Disk

namespace DiskM

def ask {α : Type} (look : Disk → α) : DiskM α := do
  return look (← get)

def demand {α : Type} (look : Disk → Except Fault α) : DiskM α := do
  match look (← get) with
  | .ok x => return x
  | .error f => throw f

def fail {α : Type} (e : FileError) : DiskM α := throw (.file e)

def changeTree (change : Tree → Tree) : DiskM Unit :=
  modify fun d => { d with tree := change d.tree }

/-- Make one directory, inside one that is there. -/
def makeDir (path : String) : DiskM Unit := do
  let d ← get
  match d.slot path with
  | .error e => fail e
  | .ok (_, none) => fail .alreadyExists
  | .ok (place, some name) =>
    if (d.tree.find? (place ++ [name])).isSome then fail .alreadyExists
    else changeTree (·.put place name Tree.emptyDir)

/-- Go on after a fault if a directory stands at a path all the same. -/
def unlessDir (path : String) (f : Fault) : DiskM Unit := do
  if ← ask (·.isDir path) then return () else throw f

/-- Make the first of some directories, each of which stands in the next one, and those further on
    that are missing. -/
def makeNested : List String → DiskM Unit
  | [] => return ()
  | path :: above =>
    tryCatch (makeDir path) fun f =>
      if f = .file .notFound then do
        makeNested above
        tryCatch (makeDir path) (unlessDir path)
      else unlessDir path f

def makeDirs (path : String) : DiskM Unit := makeNested (path :: (Path.ancestors path).tail)

/-- Write a file under a fresh name beside its place, and move it there.  Directories above it that
    are missing are made; when it cannot be moved, it is taken away again. -/
def writeAtomically (path : String) (content : ByteArray) : DiskM Unit := do
  makeNested (Path.ancestors path).tail
  match (← get).holder path with
  | .error e => fail e
  | .ok (place, entries) =>
    let fresh := Tree.freshName (entries.map (·.1))
    changeTree (·.put place fresh (.file content))
    -- the new file may stand where the path leads, so the path is followed only now
    match (← get).target path with
    | .error e =>
      changeTree (·.erase place fresh)
      fail e
    | .ok (goal, name) =>
      changeTree fun t => (t.erase place fresh).put goal name (.file content)

/-- Write a generated file, unless one is there that is not to be replaced. -/
def writeGenerated (path text : String) (overwrite : Bool) : DiskM WriteOutcome := do
  let existed ← ask (·.exists? path)
  if existed && !overwrite then return .skipped
  else
    writeAtomically path text.toUTF8
    return if existed then .overwritten else .created

end DiskM

end WorkspaceTemplates

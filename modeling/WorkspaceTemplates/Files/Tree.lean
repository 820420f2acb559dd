/-
  WorkspaceTemplates/Files/Tree.lean
  ==================================
  **Trees of files.**

  A tree is a file with its bytes or a directory with named entries, and a location
  is the list of names that leads from the top of a tree to a place in it.  The
  first entry of a name is the one that counts; `children` gives each name once,
  in order.  Entries whose names are no texts stand apart: no location leads to
  them, and only `listing` shows them.
-/
import WorkspaceTemplates.Dictionary
import WorkspaceTemplates.Files.Name

namespace WorkspaceTemplates

inductive Tree where
  | file (content : ByteArray)
  | dir (entries : List (String × Tree)) (others : List (RawName × Tree))
deriving Inhabited

/-- A place in a tree, as the names that lead to it. -/
abbrev Location := List String

namespace Tree

/-- A directory of entries whose names are texts. -/
def folder (entries : List (String × Tree)) : Tree := .dir entries []

def emptyDir : Tree := folder []

def isDir : Tree → Bool
  | .dir _ _ => true
  | .file _ => false

def isFile : Tree → Bool
  | .file _ => true
  | .dir _ _ => false

/-! ### Looking -/

def entry? : Tree → String → Option Tree
  | .dir entries _, name => entries.lookup name
  | .file _, _ => none

def find? (t : Tree) : Location → Option Tree
  | [] => some t
  | name :: rest =>
    match entry? t name with
    | some u => u.find? rest
    | none => none

/-- What stands one name below a location is an entry of what stands there. -/
theorem find?_concat (t : Tree) (place : Location) (name : String) :
    t.find? (place ++ [name]) = (t.find? place).bind fun u => entry? u name := by
  induction place generalizing t with
  | nil =>
    show t.find? [name] = entry? t name
    rw [find?]
    cases entry? t name <;> rfl
  | cons n rest ih =>
    rw [List.cons_append, find?, find?]
    cases entry? t n with
    | none => rfl
    | some u => exact ih u

/-- The entries of a directory whose names are texts, each name once. -/
def children : Tree → Dictionary Tree
  | .dir entries _ => entries.foldr (fun e d => d.insert e.1 e.2) Dictionary.empty
  | .file _ => Dictionary.empty

def others : Tree → List (RawName × Tree)
  | .dir _ others => others
  | .file _ => []

def rawChildren (t : Tree) : List (RawName × Tree) :=
  t.others.foldr (fun e es => e :: es.filter (·.1 != e.1)) []

/-- All entries of a directory, each name once, in the order of the bytes of their names. -/
def listing (t : Tree) : List (FileName × Tree) :=
  FileName.sortEntries
    (t.children.entries.map (fun e => (.text e.1, e.2))
      ++ t.rawChildren.map fun e => (.raw e.1, e.2))

mutual

def walk (t : Tree) : List (Location × Tree) :=
  match t with
  | .file _ => []
  | .dir entries _ => walkEntries entries

def walkEntries (entries : List (String × Tree)) : List (Location × Tree) :=
  match entries with
  | [] => []
  | (name, t) :: rest =>
    ([name], t) :: (walk t).map (fun p => (name :: p.1, p.2)) ++ walkEntries rest

end

/-! ### Changing -/

/-- Change the entries of the directory at a location, if there is one. -/
def modify (change : List (String × Tree) → List (String × Tree)) (t : Tree) : Location → Tree
  | [] =>
    match t with
    | .dir entries others => .dir (change entries) others
    | .file content => .file content
  | name :: rest =>
    match t with
    | .dir entries others =>
      match entries.lookup name with
      | some u => .dir (Entries.insert name (u.modify change rest) entries) others
      | none => .dir entries others
    | .file content => .file content

def put (t : Tree) (place : Location) (name : String) (u : Tree) : Tree :=
  t.modify (Entries.insert name u) place

def erase (t : Tree) (place : Location) (name : String) : Tree :=
  t.modify (fun entries => entries.filter (·.1 != name)) place

/-! ### Names that are not taken -/

/-- A name longer than every one in a list, and so none of them. -/
def freshName (taken : List String) : String :=
  String.ofList ('.' :: List.replicate (taken.foldr (fun s n => max s.length n) 0) '~')

theorem length_le_foldr_max {taken : List String} {s : String} (h : s ∈ taken) :
    s.length ≤ taken.foldr (fun s n => max s.length n) 0 := by
  induction taken with
  | nil => cases h
  | cons a rest ih =>
    rw [List.foldr_cons]
    rcases List.mem_cons.1 h with rfl | h
    · exact Nat.le_max_left _ _
    · exact Nat.le_trans (ih h) (Nat.le_max_right _ _)

theorem freshName_not_mem (taken : List String) : freshName taken ∉ taken := by
  intro h
  have hle := length_le_foldr_max h
  rw [freshName, String.length_ofList, List.length_cons, List.length_replicate] at hle
  omega

end Tree

end WorkspaceTemplates

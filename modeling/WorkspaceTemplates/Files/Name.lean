/-
  WorkspaceTemplates/Files/Name.lean
  ==================================
  **Names of files.**

  The name of a file is made of bytes, which need not be the form of a text.  Paths
  are texts, so a name that is none is met only where a directory is listed.  There
  names are compared by their bytes, and cut at their dots; what a name shows,
  `FileName.shown`, may be what another one shows.
-/
import WorkspaceTemplates.Files.Path
import WorkspaceTemplates.Text.Utf8

namespace WorkspaceTemplates

/-- A name that is not the form of a text.  Like every name it is not too long, and has no NUL byte
    and no slash. -/
structure RawName where
  bytes : List UInt8
  notText : utf8Bytes (Text.lossy bytes) ≠ bytes
  short : bytes.length ≤ Path.segmentLimit
  proper : '\x00'.toUInt8 ∉ bytes ∧ '/'.toUInt8 ∉ bytes
deriving DecidableEq

/-- The extension of a name: the bytes after its last dot, unless the name starts with that dot. -/
def RawName.extension? (name : RawName) : Option (List UInt8) :=
  Text.afterLast? '.'.toUInt8 name.bytes

/-- The name of an entry of a directory. -/
inductive FileName where
  | text (s : String)
  | raw (name : RawName)
deriving DecidableEq

namespace FileName

def bytes : FileName → List UInt8
  | .text s => utf8Bytes s
  | .raw name => name.bytes

/-- Names with the same bytes are the same. -/
theorem bytes_injective {a b : FileName} (h : a.bytes = b.bytes) : a = b := by
  have hraw (s : String) (name : RawName) : utf8Bytes s ≠ name.bytes := by
    intro hs
    apply name.notText
    rw [← hs, Text.lossy_utf8Bytes]
  cases a with
  | text s =>
    cases b with
    | text t =>
      have htext := congrArg Text.lossy h
      rw [bytes, bytes, Text.lossy_utf8Bytes, Text.lossy_utf8Bytes] at htext
      rw [htext]
    | raw name => exact absurd h (hraw s name)
  | raw name =>
    cases b with
    | text s => exact absurd h.symm (hraw s name)
    | raw name' =>
      cases name
      cases name'
      cases h
      rfl

def shown (name : FileName) : String := Text.lossy name.bytes

@[simp] theorem shown_text (s : String) : (text s).shown = s := Text.lossy_utf8Bytes s

def hasExtension (extension : String) : FileName → Bool
  | .text s => Path.extension? s == some extension
  | .raw name => name.extension? == some (utf8Bytes extension)

/-! ### The order of a listing -/

variable {α : Type}

/-- Put an entry before the first one whose name is not less. -/
def insertEntry (e : FileName × α) : List (FileName × α) → List (FileName × α)
  | [] => [e]
  | e' :: rest => if e'.1.bytes < e.1.bytes then e' :: insertEntry e rest else e :: e' :: rest

def sortEntries (es : List (FileName × α)) : List (FileName × α) := es.foldr insertEntry []

theorem insertEntry_perm (e : FileName × α) (es : List (FileName × α)) :
    (insertEntry e es).Perm (e :: es) := by
  induction es with
  | nil => exact .refl _
  | cons e' es ih =>
    rw [insertEntry]
    split
    · exact (ih.cons e').trans (.swap e e' es)
    · exact .refl _

theorem sortEntries_perm (es : List (FileName × α)) : (sortEntries es).Perm es := by
  induction es with
  | nil => exact .refl _
  | cons e es ih => exact (insertEntry_perm e _).trans (ih.cons e)

end FileName

end WorkspaceTemplates

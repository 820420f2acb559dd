/-
  WorkspaceTemplates/Text/Utf8.lean
  =================================
  **Texts and their bytes.**

  A text is written as the UTF-8 form of its characters.  Bytes that are no such
  form can still be shown: `lossy` reads them from left to right and shows U+FFFD
  for every longest run of bytes that starts a character but does not complete it,
  and for every byte that starts none.  Of bytes that are the form of a text it
  shows that text (`lossy_utf8Bytes`).
-/

namespace WorkspaceTemplates

def utf8Bytes (text : String) : List UInt8 := text.toList.flatMap String.utf8EncodeChar

namespace Text

/-- A character of which some bytes were read. -/
structure Begun where
  /-- The bits that were read. -/
  bits : Nat
  /-- How many bytes follow the next one. -/
  after : Nat
  /-- The bounds of the next byte. -/
  low : Nat
  high : Nat
deriving DecidableEq

/-- What the first of several bytes begins.  The bounds of the second byte leave out long forms of
    short characters, surrogates, and numbers beyond U+10FFFF. -/
def begin? (b : Nat) : Option Begun :=
  if b < 0xC2 then none
  else if b < 0xE0 then some ⟨b - 0xC0, 0, 0x80, 0xBF⟩
  else if b < 0xF0 then
    some ⟨b - 0xE0, 1, if b = 0xE0 then 0xA0 else 0x80, if b = 0xED then 0x9F else 0xBF⟩
  else if b < 0xF5 then
    some ⟨b - 0xF0, 2, if b = 0xF0 then 0x90 else 0x80, if b = 0xF4 then 0x8F else 0xBF⟩
  else none

def replacement : Char := '\uFFFD'

/-- Read a byte when nothing is begun; give what is complete and what is begun. -/
def readFirst (b : Nat) : List Char × Option Begun :=
  if b < 0x80 then ([Char.ofNat b], none)
  else
    match begin? b with
    | some c => ([], some c)
    | none => ([replacement], none)

def readByte (begun : Option Begun) (b : Nat) : List Char × Option Begun :=
  match begun with
  | none => readFirst b
  | some c =>
    if c.low ≤ b ∧ b ≤ c.high then
      let bits := c.bits * 64 + (b - 0x80)
      match c.after with
      | 0 => ([Char.ofNat bits], none)
      | n + 1 => ([], some ⟨bits, n, 0x80, 0xBF⟩)
    else (replacement :: (readFirst b).1, (readFirst b).2)

/-- The characters that bytes show after those of a character that is begun. -/
def readBytes (begun : Option Begun) : List UInt8 → List Char
  | [] => if begun.isSome then [replacement] else []
  | b :: rest => (readByte begun b.toNat).1 ++ readBytes (readByte begun b.toNat).2 rest

def lossy (bytes : List UInt8) : String := String.ofList (readBytes none bytes)

/-- Three bytes and two bytes of longer characters, a byte that starts none, and a surrogate. -/
example : lossy [0xF0, 0x9F, 0x98, 0x41, 0xE2, 0x82, 0xFF, 0xED, 0xA0] =
    "\uFFFDA\uFFFD\uFFFD\uFFFD\uFFFD" := by decide +kernel

/-! ### The bytes of a text -/

theorem begin?_two : ∀ m < 32, 2 ≤ m → begin? (m + 0xC0) = some ⟨m, 0, 0x80, 0xBF⟩ := by decide

theorem begin?_three : ∀ m < 16, begin? (m + 0xE0) =
    some ⟨m, 1, if m = 0 then 0xA0 else 0x80, if m = 13 then 0x9F else 0xBF⟩ := by decide

theorem begin?_four : ∀ m < 5, begin? (m + 0xF0) =
    some ⟨m, 2, if m = 0 then 0x90 else 0x80, if m = 4 then 0x8F else 0xBF⟩ := by decide

section Read

variable {n : Nat} (rest : List UInt8)

theorem readBytes_ofNat (begun : Option Begun) (hn : n < 256) :
    readBytes begun (UInt8.ofNat n :: rest) =
      (readByte begun n).1 ++ readBytes (readByte begun n).2 rest := by
  rw [readBytes, UInt8.toNat_ofNat_of_lt' hn]

theorem readBytes_first (hn : n < 256) {c : Begun} (h : begin? n = some c) :
    readBytes none (UInt8.ofNat n :: rest) = readBytes (some c) rest := by
  have hlow : ¬ n < 0x80 := by
    intro hlt
    rw [begin?, if_pos (by omega)] at h
    cases h
  rw [readBytes_ofNat rest none hn, readByte, readFirst, if_neg hlow, h]
  rfl

theorem readBytes_next {bits after low high : Nat} (hn : n < 256) (hlow : low ≤ n)
    (hhigh : n ≤ high) :
    readBytes (some ⟨bits, after + 1, low, high⟩) (UInt8.ofNat n :: rest) =
      readBytes (some ⟨bits * 64 + (n - 0x80), after, 0x80, 0xBF⟩) rest := by
  rw [readBytes_ofNat rest _ hn, readByte, if_pos ⟨hlow, hhigh⟩]
  rfl

theorem readBytes_last {bits low high m : Nat} (hn : n < 256) (hlow : low ≤ n) (hhigh : n ≤ high)
    (hbits : bits * 64 + (n - 0x80) = m) :
    readBytes (some ⟨bits, 0, low, high⟩) (UInt8.ofNat n :: rest) =
      Char.ofNat m :: readBytes none rest := by
  rw [readBytes_ofNat rest _ hn, readByte, if_pos ⟨hlow, hhigh⟩, ← hbits]
  rfl

theorem readBytes_utf8EncodeChar (c : Char) :
    readBytes none (String.utf8EncodeChar c ++ rest) = c :: readBytes none rest := by
  have hvalid : c.val.toNat < 0xD800 ∨ 0xDFFF < c.val.toNat ∧ c.val.toNat < 0x110000 := c.valid
  have hc : Char.ofNat c.val.toNat = c := Char.ofNat_toNat c
  rw [String.utf8EncodeChar]
  generalize c.val.toNat = v at hvalid hc
  split
  · rw [List.singleton_append, readBytes_ofNat rest none (by omega), readByte, readFirst,
      if_pos (by omega), hc]
    rfl
  · split
    · rw [List.cons_append,
        readBytes_first _ (by omega) (begin?_two (v / 64 % 32) (by omega) (by omega)),
        List.singleton_append,
        readBytes_last rest (by omega) (by omega) (by omega) (m := v) (by omega), hc]
    · split
      · rw [List.cons_append,
          readBytes_first _ (by omega) (begin?_three (v / 4096 % 16) (by omega)),
          List.cons_append,
          readBytes_next _ (by omega) (by split <;> omega) (by split <;> omega),
          List.singleton_append,
          readBytes_last rest (by omega) (by omega) (by omega) (m := v) (by omega), hc]
      · rw [List.cons_append,
          readBytes_first _ (by omega) (begin?_four (v / 262144 % 8) (by omega)),
          List.cons_append,
          readBytes_next _ (by omega) (by split <;> omega) (by split <;> omega),
          List.cons_append, readBytes_next _ (by omega) (by omega) (by omega),
          List.singleton_append,
          readBytes_last rest (by omega) (by omega) (by omega) (m := v) (by omega), hc]

end Read

theorem lossy_utf8Bytes (s : String) : lossy (utf8Bytes s) = s := by
  have hread (l : List Char) : readBytes none (l.flatMap String.utf8EncodeChar) = l := by
    induction l with
    | nil => rfl
    | cons c l ih => rw [List.flatMap_cons, readBytes_utf8EncodeChar, ih]
  rw [lossy, utf8Bytes, hread, String.ofList_toList]

end Text

end WorkspaceTemplates

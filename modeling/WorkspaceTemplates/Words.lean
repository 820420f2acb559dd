/-
  WorkspaceTemplates/Words.lean
  =============================
  **Words of identifiers.**

  `split` cuts a name such as `HTTPServerPort` into words at its capitals: a word
  is an optional capital followed by lower-case letters, or a run of capitals.  A
  run of capitals before other text gives its last capital back, since that one
  may start the next word; whatever belongs to no word is skipped.  `camelCase`
  goes the other way, from words joined by underscores.
-/
import WorkspaceTemplates.Text.Case
import WorkspaceTemplates.Text.Pieces

namespace WorkspaceTemplates.Words

/-! ### Reading one word -/

/-- Read an optional capital and the lower-case letters after it; give word and rest.  The
    capital counts only before a lower-case letter, and there must be one such letter. -/
def lowerWord? (s : List Char) : Option (List Char × List Char) :=
  match s with
  | [] => none
  | c :: rest =>
    if c.isUpper && (rest.head?.any Char.isLower) then
      some (c :: rest.takeWhile Char.isLower, rest.dropWhile Char.isLower)
    else if c.isLower then
      some ((c :: rest).takeWhile Char.isLower, (c :: rest).dropWhile Char.isLower)
    else none

/-- Read a run of capitals: the whole run at the end of the text, else all but its last
    capital, if any are left. -/
def capitals? (s : List Char) : Option (List Char × List Char) :=
  match s.takeWhile Char.isUpper, s.dropWhile Char.isUpper with
  | [], _ => none
  | run@(_ :: _), [] => some (run, [])
  -- a single capital has nothing left when it is given back
  | [_], _ :: _ => none
  | run@(a :: b :: more), rest@(_ :: _) =>
    some (run.dropLast, (a :: b :: more).getLast (by simp) :: rest)

def word? (s : List Char) : Option (List Char × List Char) :=
  (lowerWord? s).or (capitals? s)

/-! ### A word is never empty -/

theorem length_of_lowerWord? {s w r : List Char} (h : lowerWord? s = some (w, r)) :
    r.length < s.length := by
  unfold lowerWord? at h
  split at h
  · cases h
  · rename_i c rest
    split at h
    · cases h
      have := (List.dropWhile_sublist Char.isLower (l := rest)).length_le
      simp only [List.length_cons]; omega
    · split at h
      · rename_i hl
        cases h
        have := (List.dropWhile_sublist Char.isLower (l := rest)).length_le
        simp only [List.dropWhile_cons, hl, if_true, List.length_cons]; omega
      · cases h

theorem length_of_capitals? {s w r : List Char} (h : capitals? s = some (w, r)) :
    r.length < s.length := by
  have hs := congrArg List.length (List.takeWhile_append_dropWhile (p := Char.isUpper) (l := s))
  unfold capitals? at h
  split at h
  · cases h
  · rename_i ht hd
    cases h
    rw [ht] at hs
    simp at hs ⊢; omega
  · cases h
  · rename_i ht hd
    cases h
    rw [ht, hd] at hs
    simp at hs ⊢; omega

theorem length_of_word? {s w r : List Char} (h : word? s = some (w, r)) : r.length < s.length := by
  unfold word? at h
  cases hl : lowerWord? s with
  | some p => rw [hl] at h; cases h; exact length_of_lowerWord? hl
  | none => rw [hl] at h; exact length_of_capitals? h

/-! ### All words -/

def splitChars (s : List Char) : List (List Char) :=
  match s with
  | [] => []
  | c :: rest =>
    match _h : word? (c :: rest) with
    | some (w, r) => w :: splitChars r
    | none => splitChars rest
termination_by s.length
decreasing_by
  · exact length_of_word? ‹_›
  · simp

def split (name : String) : List String :=
  (splitChars name.toList).map String.ofList

/-- Join the pieces between underscores, all but the first capitalized. -/
def camelCase (key : String) : String :=
  match Text.pieces '_' key.toList with
  | [] => ""
  | first :: others => String.ofList (first ++ others.flatMap Text.capitalizeChars)

/-- The words of a name in lower case, joined by underscores. -/
def snakeCase (name : String) : String :=
  Text.lower ("_".intercalate (split name))

end WorkspaceTemplates.Words

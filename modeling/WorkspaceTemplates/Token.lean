/-
  WorkspaceTemplates/Token.lean
  =============================
  **Placeholder tokens.**

  A template is plain text with tokens in it: `<PLACEHOLDER:`, any number of
  blanks, a name of ASCII letters, digits and underscores, and `>`.  A name that
  continues after `IF_` opens a conditional region, one that continues after
  `ENDIF_` closes it; every other name stands for a value of the context.

  `matchAt?` reads one token at the head of a text, for a given start of its name;
  the three kinds of token differ in that start alone.  A token holds no `<` but
  its first character, so no two tokens overlap: `occurrences` may look at every
  position, and `replaceAll` may go on right after the token it replaced.
-/
import WorkspaceTemplates.Text.Blank
import WorkspaceTemplates.Text.Pieces

namespace WorkspaceTemplates.Token

/-! ### Reading one token -/

/-- The text that starts every token. -/
def opener : List Char := "<PLACEHOLDER:".toList

/-- How the name of a token that opens a region starts. -/
def ifTag : List Char := "IF_".toList

/-- How the name of a token that closes a region starts. -/
def endifTag : List Char := "ENDIF_".toList

/-- The characters of names: ASCII letters, digits and the underscore. -/
def isNameChar (c : Char) : Bool := c.isAlphanum || c == '_'

/-- Read a non-empty run of name characters and the closing `>`; give the run and the rest. -/
def nameAndClose? (s : List Char) : Option (List Char × List Char) :=
  match s.takeWhile isNameChar, s.dropWhile isNameChar with
  | name@(_ :: _), '>' :: rest => some (name, rest)
  | _, _ => none

/-- Read a token whose name starts with `tag` at the head of a text; give what follows `tag`
    in the name, which may not be empty, and the text after the token. -/
def matchAt? (tag s : List Char) : Option (List Char × List Char) :=
  (opener.isPrefixOf? s).bind fun afterOpener =>
    (tag.isPrefixOf? (afterOpener.dropWhile Text.isBlank)).bind nameAndClose?

/-! ### The text after a token is shorter -/

theorem isPrefixOf?_cons (a b : Char) (p s : List Char) :
    (a :: p).isPrefixOf? (b :: s) = if a == b then p.isPrefixOf? s else none := rfl

theorem length_of_isPrefixOf? {p s r : List Char} (h : p.isPrefixOf? s = some r) :
    s.length = p.length + r.length := by
  induction p generalizing s with
  | nil => cases s <;> cases h <;> simp
  | cons a p ih =>
    cases s with
    | nil => cases h
    | cons b s =>
      rw [isPrefixOf?_cons] at h
      split at h
      · simp [ih h]; omega
      · cases h

theorem length_of_nameAndClose? {s name rest : List Char}
    (h : nameAndClose? s = some (name, rest)) : rest.length < s.length := by
  unfold nameAndClose? at h
  split at h
  · rename_i hd
    cases h
    have := (List.dropWhile_sublist isNameChar (l := s)).length_le
    rw [hd, List.length_cons] at this
    omega
  · cases h

/-- Reading a token uses up characters. -/
theorem length_of_matchAt? {tag s name rest : List Char} (h : matchAt? tag s = some (name, rest)) :
    rest.length < s.length := by
  obtain ⟨a, ha, h⟩ := Option.bind_eq_some_iff.1 h
  obtain ⟨b, hb, h⟩ := Option.bind_eq_some_iff.1 h
  have h1 := length_of_isPrefixOf? ha
  have h2 := length_of_isPrefixOf? hb
  have h3 := (List.dropWhile_sublist Text.isBlank (l := a)).length_le
  have h4 := length_of_nameAndClose? h
  omega

/-! ### All tokens of a text -/

/-- A token found in a text: its first byte, the byte after its last, and the part of its name
    after the tag that was looked for. -/
structure Occurrence where
  start : Nat
  stop : Nat
  name : List Char
deriving DecidableEq, Repr

/-- The tokens whose name starts with `tag`, with byte offsets counted from `offset`. -/
def occurrencesFrom (tag : List Char) (offset : Nat) : List Char → List Occurrence
  | [] => []
  | c :: rest =>
    -- inside a token none starts, so nothing is found twice
    let later := occurrencesFrom tag (offset + c.utf8Size) rest
    match matchAt? tag (c :: rest) with
    | some (name, after) =>
      ⟨offset, offset + (Text.utf8Length (c :: rest) - Text.utf8Length after), name⟩ :: later
    | none => later

def occurrences (tag : List Char) (s : String) : List Occurrence :=
  occurrencesFrom tag 0 s.toList

/-- Replace every token whose name starts with `tag` by a text made from its name. -/
def replaceAll (tag : List Char) (f : List Char → List Char) (s : List Char) : List Char :=
  match s with
  | [] => []
  | c :: rest =>
    match _h : matchAt? tag (c :: rest) with
    | some (name, after) => f name ++ replaceAll tag f after
    | none => c :: replaceAll tag f rest
termination_by s.length
decreasing_by
  · exact length_of_matchAt? ‹_›
  · simp

/-! ### Names -/

def allNames (s : List Char) : List String :=
  (occurrencesFrom [] 0 s).map fun o => String.ofList o.name

/-- The names of the tokens of a text, each once, in order of first appearance. -/
def names (s : String) : List String :=
  (allNames s.toList).eraseDups

/-- Whether a name belongs to a token that opens or closes a region. -/
def isConditional (name : String) : Bool :=
  ifTag.isPrefixOf name.toList || endifTag.isPrefixOf name.toList

end WorkspaceTemplates.Token

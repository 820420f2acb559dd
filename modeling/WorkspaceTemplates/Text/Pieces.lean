/-
  WorkspaceTemplates/Text/Pieces.lean
  ===================================
  **Cutting and searching texts.**

  `pieces` cuts a text at every occurrence of a separator; `ofLines` puts lines
  together; `occursIn` looks for one text inside another; `afterLast?` gives what
  follows the last separator; `utf8Length` measures a text in the bytes of its UTF-8
  form, the unit of every offset and column width.
-/

namespace WorkspaceTemplates.Text

/-- The pieces between the separators: one more than there are separators. -/
def pieces {α : Type} [DecidableEq α] (sep : α) : List α → List (List α)
  | [] => [[]]
  | c :: rest =>
    if c = sep then [] :: pieces sep rest
    else
      match pieces sep rest with
      | [] => [[c]]
      | p :: ps => (c :: p) :: ps

/-- The text of some lines, each of them ended. -/
def ofLines (lines : List String) : String :=
  String.ofList (lines.flatMap fun line => line.toList ++ ['\n'])

def occursIn (needle : List Char) : List Char → Bool
  | [] => needle.isEmpty
  | c :: rest => needle.isPrefixOf (c :: rest) || occursIn needle rest

/-- What follows the last separator, unless there is none or nothing stands before it. -/
def afterLast? {α : Type} [BEq α] (sep : α) (s : List α) : Option (List α) :=
  let back := s.reverse
  let stem := (back.dropWhile (· != sep)).tail
  if stem.isEmpty then none else some (back.takeWhile (· != sep)).reverse

def utf8Length : List Char → Nat
  | [] => 0
  | c :: rest => c.utf8Size + utf8Length rest

@[simp] theorem utf8Length_nil : utf8Length [] = 0 := rfl

@[simp] theorem utf8Length_cons (c : Char) (s : List Char) :
    utf8Length (c :: s) = c.utf8Size + utf8Length s := rfl

@[simp] theorem utf8Length_append (s t : List Char) :
    utf8Length (s ++ t) = utf8Length s + utf8Length t := by
  induction s with
  | nil => simp
  | cons c s ih => simp [ih, Nat.add_assoc]

end WorkspaceTemplates.Text

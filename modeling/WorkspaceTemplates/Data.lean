/-
  WorkspaceTemplates/Data.lean
  ============================
  **Documents, whatever their format.**

  What a YAML or JSON text says, before it is taken for a context: scalars,
  sequences, mappings with keys of any kind, and tagged values.  `Data.same` is
  the equality under which a mapping may not have a key twice: not-a-number equals
  itself, the two zeros are equal, and the order of a mapping does not matter.
  `Value.ofData` forgets tags, writes out numbers that are no 64-bit integers, and
  turns items of sequences and keys of mappings into texts.
-/
import WorkspaceTemplates.Decimal.Shortest
import WorkspaceTemplates.Json.Basic
import WorkspaceTemplates.Value

namespace WorkspaceTemplates

/-- A number that is no integer. -/
inductive Data.Real where
  | finite (x : Binary64)
  | infinity (negative : Bool)
  | nan
deriving DecidableEq, Repr

inductive Data where
  | null
  | bool (b : Bool)
  | integer (i : Int)
  | real (r : Data.Real)
  | text (s : String)
  | sequence (items : List Data)
  | mapping (entries : List (Data × Data))
  | tagged (tag : String) (content : Data)
deriving Repr, Inhabited

namespace Data

/-! ### Numbers -/

def Real.text : Real → String
  | .finite x => Decimal.text x
  | .infinity false => ".inf"
  | .infinity true => "-.inf"
  | .nan => ".nan"

/-- Equality of numbers, with not-a-number equal to itself. -/
def Real.same : Real → Real → Bool
  | .finite x, .finite y => x.same y
  | .infinity a, .infinity b => a == b
  | .nan, .nan => true
  | _, _ => false

/-! ### Equality of documents -/

/-- A tag without the exclamation mark that may stand in front of it. -/
def bareTag (tag : String) : String :=
  match tag.toList with
  | '!' :: c :: rest => String.ofList (c :: rest)
  | _ => tag

mutual

/-- Whether two documents are equal as keys of a mapping. -/
def same (a b : Data) : Bool :=
  match a, b with
  | .null, .null => true
  | .bool x, .bool y => x == y
  | .integer x, .integer y => x == y
  | .real x, .real y => x.same y
  | .text x, .text y => x == y
  | .sequence xs, .sequence ys => sameItems xs ys
  | .mapping xs, .mapping ys => xs.length == ys.length && sameEntries xs ys
  | .tagged t x, .tagged u y => bareTag t == bareTag u && same x y
  | _, _ => false

def sameItems (xs ys : List Data) : Bool :=
  match xs, ys with
  | [], [] => true
  | x :: xs, y :: ys => same x y && sameItems xs ys
  | _, _ => false

/-- Whether every entry of one mapping is found in another. -/
def sameEntries (xs ys : List (Data × Data)) : Bool :=
  match xs with
  | [] => true
  | (k, v) :: rest => ys.any (fun e => same k e.1 && same v e.2) && sameEntries rest ys

end

def hasKey (entries : List (Data × Data)) (key : Data) : Bool :=
  entries.any fun e => same e.1 key

def keysDistinct : List (Data × Data) → Bool
  | [] => true
  | (k, _) :: rest => !hasKey rest k && keysDistinct rest

/-! ### From JSON -/

mutual

/-- A JSON value as a document; objects may not repeat a name. -/
def ofJson? : Json → Option Data
  | .null => some .null
  | .bool b => some (.bool b)
  | .number (.natural n) => some (.integer n)
  | .number (.negative n) => some (.integer (-n))
  | .number (.real x) => some (.real (.finite x))
  | .string s => some (.text s)
  | .array items => (ofItems? items).map .sequence
  | .object members =>
    if (members.map (·.1)).eraseDups.length = members.length then
      (ofMembers? members).map .mapping
    else none

def ofItems? : List Json → Option (List Data)
  | [] => some []
  | j :: rest => (ofJson? j).bind fun d => (ofItems? rest).map (d :: ·)

def ofMembers? : List (String × Json) → Option (List (Data × Data))
  | [] => some []
  | (k, j) :: rest => (ofJson? j).bind fun d => (ofMembers? rest).map ((.text k, d) :: ·)

end

end Data

/-! ### Values of a context -/

namespace Value

/-- An integer as a value: its decimal text when it exceeds 64 bits. -/
def ofInteger (i : Int) : Value :=
  if Int64.minValue.toInt ≤ i ∧ i ≤ Int64.maxValue.toInt then .int (Int64.ofInt i)
  else .text i.repr

mutual

def ofData : Data → Value
  | .null => .null
  | .bool b => .bool b
  | .integer i => ofInteger i
  | .real r => .text r.text
  | .text s => .text s
  | .sequence items => .list (plainItems items)
  | .mapping entries => .ofDictionary (Dictionary.ofList (ofEntries entries))
  | .tagged _ content => ofData content

def plainItems : List Data → List String
  | [] => []
  | d :: rest => plain (ofData d) :: plainItems rest

/-- The entries of a mapping, in the order of the document. -/
def ofEntries : List (Data × Data) → List (String × Value)
  | [] => []
  | (k, d) :: rest =>
    -- A key that is a text is its own plain text.
    (plain (ofData k), ofData d) :: ofEntries rest

end

def ofJson? (j : Json) : Option Value := (Data.ofJson? j).map ofData

def toJson : Value → Json
  | .null => .null
  | .bool b => .bool b
  | .int i => Json.ofInt i.toInt
  | .text s => .string s
  | .list items => Json.strings items
  | .map keys _ value => .object (List.ofFn fun i => (keys.get i, toJson (value i)))

def toMembers (entries : List (String × Value)) : List (String × Json) :=
  entries.map fun e => (e.1, toJson e.2)

theorem toJson_ofDictionary (d : Dictionary Value) :
    (ofDictionary d).toJson = .object (toMembers d.entries) :=
  congrArg Json.object (d.ofFn_valueAt fun k v => (k, toJson v))

end Value

end WorkspaceTemplates

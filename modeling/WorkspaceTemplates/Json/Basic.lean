/-
  WorkspaceTemplates/Json/Basic.lean
  ==================================
  **JSON values.**

  Objects keep their members in the order of the text, repeated names included;
  `member?` finds the last of them.  A number is a natural number or a negative
  integer of 64 bits, or a binary64 number.
-/
import WorkspaceTemplates.Decimal.Binary64

namespace WorkspaceTemplates

inductive Json.Number where
  /-- A natural number below `2^64`. -/
  | natural (n : Nat)
  /-- The integer `-n`, from `-2^63` up to `-1`. -/
  | negative (n : Nat)
  | real (x : Binary64)
deriving DecidableEq, Repr

inductive Json where
  | null
  | bool (b : Bool)
  | number (n : Json.Number)
  | string (s : String)
  | array (items : List Json)
  | object (members : List (String × Json))
deriving Repr, Inhabited

namespace Json

def ofNat (n : Nat) : Json := .number (.natural n)

def ofInt : Int → Json
  | .ofNat n => .number (.natural n)
  | .negSucc n => .number (.negative (n + 1))

def strings (items : List String) : Json := .array (items.map .string)

def object? : Json → Option (List (String × Json))
  | .object members => some members
  | _ => none

def array? : Json → Option (List Json)
  | .array items => some items
  | _ => none

def string? : Json → Option String
  | .string s => some s
  | _ => none

def bool? : Json → Option Bool
  | .bool b => some b
  | _ => none

/-- The last member of an object with a name. -/
def member? (name : String) (j : Json) : Option Json :=
  j.object?.bind fun members => members.reverse.lookup name

end Json

end WorkspaceTemplates

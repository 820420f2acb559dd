/-
  WorkspaceTemplates/Yaml/Meaning.lean
  ====================================
  **What the nodes of a document say.**

  A plain scalar is null, a truth value, an integer, a number or a text, by its
  spelling; a quoted one is a text.  A tag of the language overrides this; a local
  tag is kept with the value.  Collections may nest 128 deep, a mapping may not
  have a key twice, and aliases are followed at most a hundred times as often as
  the document has events.
-/
import WorkspaceTemplates.Data
import WorkspaceTemplates.Yaml.Node

namespace WorkspaceTemplates.Yaml

/-! ### Spellings of plain scalars -/

/-- The spellings of null, the empty one aside. -/
def isNullText (s : String) : Bool :=
  s == "null" || s == "Null" || s == "NULL" || s == "~"

def boolOfText? (s : String) : Option Bool :=
  if s == "true" || s == "True" || s == "TRUE" then some true
  else if s == "false" || s == "False" || s == "FALSE" then some false
  else none

def digitOfBase? (base : Nat) (c : Char) : Option Nat :=
  (hexValue? c).bind fun d => if d < base then some d else none

def digitsOfBase? (base : Nat) (s : List Char) : Option Nat :=
  if s.isEmpty then none
  else s.foldlM (fun n c => (digitOfBase? base c).map (n * base + ·)) 0

/-- Whether a text is digits with a leading zero, which makes it no number. -/
def isZeroPadded (s : List Char) : Bool :=
  let s :=
    match s with
    | '-' :: r => r
    | '+' :: r => r
    | r => r
  1 < s.length && s.headD ' ' == '0' && s.all Char.isDigit

/-- The integer that a text spells in decimal or with a base, without regard to its size: a sign,
    and then digits, or `0x`, `0o` or `0b` and digits of that base. -/
def integerOfText? (s : String) : Option Int :=
  let s := s.toList
  let (negative, body) :=
    match s with
    | '-' :: r => (true, r)
    | '+' :: r => (false, r)
    | r => (false, r)
  let magnitude :=
    match body with
    | '0' :: 'x' :: r => digitsOfBase? 16 r
    | '0' :: 'o' :: r => digitsOfBase? 8 r
    | '0' :: 'b' :: r => digitsOfBase? 2 r
    | r => if isZeroPadded s then none else digitsOfBase? 10 r
  magnitude.map fun n => if negative then -n else n

/-- The number that a text of digits, a point and an exponent spells, unless it is too large. -/
def decimalOfText? (negative : Bool) (s : List Char) : Option Binary64 :=
  let whole := s.takeWhile Char.isDigit
  let rest := s.dropWhile Char.isDigit
  let (fraction, rest) :=
    match rest with
    | '.' :: r => (r.takeWhile Char.isDigit, r.dropWhile Char.isDigit)
    | r => ([], r)
  if whole.isEmpty && fraction.isEmpty then none
  else
    let exponent : Option Int :=
      match rest with
      | [] => some 0
      | e :: r =>
        if e = 'e' ∨ e = 'E' then
          match r with
          | '-' :: ds => (digitsOfBase? 10 ds).map fun n => -n
          | '+' :: ds => (digitsOfBase? 10 ds).map fun n => n
          | ds => (digitsOfBase? 10 ds).map fun n => n
        else none
    exponent.bind fun e =>
      (digitsOfBase? 10 (whole ++ fraction)).bind fun n =>
        Binary64.ofDecimal? negative n (e - fraction.length)

/-- The number that a text spells, the spellings of the infinities and of not-a-number included. -/
def realOfText? (s : String) : Option Data.Real :=
  let unsigned :=
    match s.toList with
    | '+' :: r => r
    | r => r
  let u := String.ofList unsigned
  if s.startsWith "+" && (u.startsWith "+" || u.startsWith "-") then none
  else if u == ".inf" || u == ".Inf" || u == ".INF" then some (.infinity false)
  else if s == "-.inf" || s == "-.Inf" || s == "-.INF" then some (.infinity true)
  else if s == ".nan" || s == ".NaN" || s == ".NAN" then some .nan
  else
    match unsigned with
    | '-' :: r => (decimalOfText? true r).map .finite
    | r => (decimalOfText? false r).map .finite

/-- Whether an integer has 64 bits, signed or unsigned. -/
def isWord (i : Int) : Bool :=
  -(Decimal.twoPow 63 : Int) ≤ i && i < Decimal.twoPow 64

/-- Whether an integer has 128 bits, signed or unsigned. -/
def isDoubleWord (i : Int) : Bool :=
  -(Decimal.twoPow 127 : Int) ≤ i && i < Decimal.twoPow 128

/-- An integer of 64 bits as a value; one of 128 bits is refused; a longer one is not an integer. -/
def integerData? (s : String) : Option (Option Data) :=
  match integerOfText? s with
  | some i =>
    if isWord i then some (some (.integer i))
    -- a number by its size, but none that a value can keep
    else if isDoubleWord i then some none
    else none
  | none => none

def plainData (s : String) : Option Data :=
  if s.isEmpty || isNullText s then some .null
  else
    match boolOfText? s with
    | some b => some (.bool b)
    | none =>
      match integerData? s with
      | some d => d
      | none =>
        match (if isZeroPadded s.toList then none else realOfText? s) with
        | some r => some (.real r)
        | none => some (.text s)

/-! ### Tags -/

/-- What a scalar says by its tag.  A local tag changes nothing for a plain scalar; under any other
    tag, and in any other style, a scalar is a text. -/
def scalarData? (tag : Option Tag) (style : ScalarStyle) (s : String) : Option Data :=
  if tag = some Tag.bool then (boolOfText? s).map .bool
  else if tag = some Tag.int then (integerData? s).join
  else if tag = some Tag.float then (realOfText? s).map .real
  else if tag = some Tag.null then (if isNullText s then some .null else none)
  else if tag.all Tag.isLocal && style = .plain then plainData s
  else some (.text s)

def withTag (tag : Option Tag) (x : Data) : Data :=
  match tag.bind Tag.keptName? with
  | some name => .tagged name x
  | none => x

/-! ### Values of nodes -/

namespace Document

/-- The number of times that aliases may be followed. -/
def aliasLimit (d : Document) : Nat := 100 * d.events

/-- Follow an alias; the counter says how often aliases were followed. -/
def follow? (d : Document) (n : Node) (used : Nat) : Option (Node × Nat) :=
  match n with
  | .alias a =>
    if d.aliasLimit ≤ used then none else (d.target? a).map (·, used + 1)
  | n => some (n, used)

/-- The value of a node whose collections nest at most `room` deep. -/
def data? (d : Document) : Nat → Node → Nat → Option (Data × Nat)
  | room, n, used =>
    (d.follow? n used).bind fun (n, used) =>
      match n with
      | .scalar _ tag style s =>
        (scalarData? tag style s).map fun x => (withTag tag x, used)
      | .sequence _ tag items =>
        match room with
        | 0 => none
        | room + 1 =>
          (items.foldlM (fun (acc : List Data × Nat) n =>
              (data? d room n acc.2).map fun (x, used) => (x :: acc.1, used)) ([], used)).map
            fun (xs, used) => (withTag tag (.sequence xs.reverse), used)
      | .mapping _ tag entries =>
        match room with
        | 0 => none
        | room + 1 =>
          (entries.foldlM (fun (acc : List (Data × Data) × Nat) (e : Node × Node) =>
              (data? d room e.1 acc.2).bind fun (k, used) =>
                if Data.hasKey acc.1 k then none
                else (data? d room e.2 used).map fun (v, used) => ((k, v) :: acc.1, used))
              ([], used)).map
            fun (es, used) => (withTag tag (.mapping es.reverse), used)
      | .alias _ => none

def nestingLimit : Nat := 128

/-- Whether a node is a plain scalar without text, which may stand for an empty collection. -/
def isVoid : Node → Bool
  | .scalar _ _ .plain s => s.isEmpty
  | _ => false

end Document

end WorkspaceTemplates.Yaml

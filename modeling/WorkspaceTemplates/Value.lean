/-
  WorkspaceTemplates/Value.lean
  =============================
  **Values that describe a project.**

  A context maps keys to values: nothing, a truth value, a 64-bit integer, a
  text, a list of texts, or a map of further values.  Lists hold texts only; a
  number or truth value found in a list has already become its text when the
  context is read.  `Value.plain` is the text of a value with no display rules,
  used wherever values are compared or searched; `Value.isEmpty` says that a value
  carries nothing.
-/
import WorkspaceTemplates.Dictionary

namespace WorkspaceTemplates

/-- A single value of a context.  A map carries its keys in order, and a value for each of them. -/
inductive Value where
  | null
  | bool (b : Bool)
  | int (i : Int64)
  | text (s : String)
  | list (items : List String)
  | map (keys : List String) (sorted : keys.Pairwise (· < ·)) (value : Fin keys.length → Value)
deriving Inhabited

namespace Value

/-! ### Maps and dictionaries -/

def ofDictionary (d : Dictionary Value) : Value := .map d.keys d.sorted_keys d.valueAt

def paired (keys : List String) (value : Fin keys.length → Value) : List (String × Value) :=
  List.ofFn fun i => (keys.get i, value i)

theorem map_fst_paired (keys : List String) (value : Fin keys.length → Value) :
    (paired keys value).map (·.1) = keys := by
  rw [paired, List.map_ofFn]
  exact List.ofFn_getElem

theorem paired_valueAt (d : Dictionary Value) : paired d.keys d.valueAt = d.entries :=
  (d.ofFn_valueAt Prod.mk).trans (List.map_id d.entries)

theorem map_congr {keys keys' : List String} {sorted : keys.Pairwise (· < ·)}
    {sorted' : keys'.Pairwise (· < ·)} {value : Fin keys.length → Value}
    {value' : Fin keys'.length → Value} (h : keys = keys')
    (hvalue : ∀ i : Fin keys.length, value i = value' (i.cast (congrArg List.length h))) :
    Value.map keys sorted value = .map keys' sorted' value' := by
  subst h
  rw [show value = value' from funext hvalue]

/-- Every map is a dictionary. -/
theorem exists_ofDictionary_eq (keys : List String) (sorted : keys.Pairwise (· < ·))
    (value : Fin keys.length → Value) :
    ∃ d : Dictionary Value, d.entries = paired keys value ∧
      Value.map keys sorted value = ofDictionary d := by
  have hkeys := map_fst_paired keys value
  have hsorted : ((paired keys value).map (·.1)).Pairwise (· < ·) := by rwa [hkeys]
  refine ⟨⟨paired keys value, List.pairwise_map.1 hsorted⟩, rfl, ?_⟩
  apply map_congr hkeys.symm
  intro i
  simp only [Dictionary.valueAt, paired, List.get_eq_getElem, List.getElem_ofFn]
  rfl

/-- Values are made of dictionaries of values. -/
@[elab_as_elim, induction_eliminator]
theorem induct {motive : Value → Prop} (null : motive .null) (bool : ∀ b, motive (.bool b))
    (int : ∀ i, motive (.int i)) (text : ∀ s, motive (.text s))
    (list : ∀ items, motive (.list items))
    (ofDictionary : ∀ d : Dictionary Value, (∀ e ∈ d.entries, motive e.2) →
      motive (.ofDictionary d)) (v : Value) : motive v := by
  cases v with
  | null => exact null
  | bool b => exact bool b
  | int i => exact int i
  | text s => exact text s
  | list items => exact list items
  | map keys sorted value =>
    obtain ⟨d, hentries, heq⟩ := exists_ofDictionary_eq keys sorted value
    rw [heq]
    apply ofDictionary
    intro e he
    rw [hentries, paired, List.mem_ofFn] at he
    obtain ⟨i, rfl⟩ := he
    exact induct null bool int text list ofDictionary (value i)

/-- The kinds of values. -/
@[elab_as_elim, cases_eliminator]
theorem byKind {motive : Value → Prop} (null : motive .null) (bool : ∀ b, motive (.bool b))
    (int : ∀ i, motive (.int i)) (text : ∀ s, motive (.text s))
    (list : ∀ items, motive (.list items))
    (ofDictionary : ∀ d : Dictionary Value, motive (.ofDictionary d)) (v : Value) : motive v :=
  induct null bool int text list (fun d _ => ofDictionary d) v

/-! ### Equality -/

def decEq (a b : Value) : Decidable (a = b) :=
  match a, b with
  | .null, .null => .isTrue rfl
  | .bool x, .bool y => decidable_of_iff (x = y) ⟨fun h => h ▸ rfl, fun h => by injection h⟩
  | .int x, .int y => decidable_of_iff (x = y) ⟨fun h => h ▸ rfl, fun h => by injection h⟩
  | .text x, .text y => decidable_of_iff (x = y) ⟨fun h => h ▸ rfl, fun h => by injection h⟩
  | .list x, .list y => decidable_of_iff (x = y) ⟨fun h => h ▸ rfl, fun h => by injection h⟩
  | .map keys _ value, .map keys' _ value' =>
    if h : keys = keys' then
      have := fun i => decEq (value i) (value' (i.cast (congrArg List.length h)))
      decidable_of_iff (∀ i, value i = value' (i.cast (congrArg List.length h)))
        ⟨map_congr h, fun e => by subst h; injection e with _ e; exact congrFun e⟩
    else .isFalse fun e => h (by injection e)
  | .null, .bool _ | .null, .int _ | .null, .text _ | .null, .list _ | .null, .map ..
  | .bool _, .null | .bool _, .int _ | .bool _, .text _ | .bool _, .list _ | .bool _, .map ..
  | .int _, .null | .int _, .bool _ | .int _, .text _ | .int _, .list _ | .int _, .map ..
  | .text _, .null | .text _, .bool _ | .text _, .int _ | .text _, .list _ | .text _, .map ..
  | .list _, .null | .list _, .bool _ | .list _, .int _ | .list _, .text _ | .list _, .map ..
  | .map .., .null | .map .., .bool _ | .map .., .int _ | .map .., .text _ | .map .., .list _ =>
    .isFalse nofun

instance : DecidableEq Value := decEq

/-! ### Views -/

def isNull : Value → Bool
  | .null => true
  | _ => false

def text? : Value → Option String
  | .text s => some s
  | _ => none

def list? : Value → Option (List String)
  | .list items => some items
  | _ => none

def map? : Value → Option (List (String × Value))
  | .map keys _ value => some (paired keys value)
  | _ => none

@[simp] theorem map?_ofDictionary (d : Dictionary Value) : (ofDictionary d).map? = some d.entries :=
  congrArg some (paired_valueAt d)

theorem ofDictionary_inj {d d' : Dictionary Value} :
    ofDictionary d = ofDictionary d' ↔ d = d' := by
  constructor
  · intro h
    have hentries := congrArg map? h
    rw [map?_ofDictionary, map?_ofDictionary] at hentries
    exact Dictionary.ext (Option.some.inj hentries)
  · exact congrArg ofDictionary

/-- A value that carries nothing: null, false, zero, and the empty text, list and map. -/
def isEmpty : Value → Bool
  | .null => true
  | .bool b => !b
  | .int i => i == 0
  | .text s => s.isEmpty
  | .list items => items.isEmpty
  | .map keys _ _ => keys.isEmpty

/-! ### Plain text -/

def boolText (b : Bool) : String := if b then "true" else "false"

def intText (i : Int64) : String := i.toInt.repr

/-- The `key: value` text of an entry, given the text of its value. -/
def entryText (key text : String) : String := key ++ ": " ++ text

/-- The plain text of a value: lists are joined in full by commas, maps become
    `key: value` pairs joined by semicolons, and null is the empty text. -/
def plain : Value → String
  | .null => ""
  | .bool b => boolText b
  | .int i => intText i
  | .text s => s
  | .list items => ", ".intercalate items
  | .map keys _ value =>
    "; ".intercalate (List.ofFn fun i => entryText (keys.get i) (plain (value i)))

def plainEntries (entries : List (String × Value)) : List String :=
  entries.map fun e => entryText e.1 (plain e.2)

theorem plain_ofDictionary (d : Dictionary Value) :
    (ofDictionary d).plain = "; ".intercalate (plainEntries d.entries) :=
  congrArg "; ".intercalate (d.ofFn_valueAt fun k v => entryText k (plain v))

end Value

end WorkspaceTemplates

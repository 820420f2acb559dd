/-
  WorkspaceTemplates/Dictionary.lean
  ==================================
  **Dictionaries: finite maps from texts, in key order.**

  The entries are kept in strictly increasing order of their keys, and the order
  is part of the type.  Two dictionaries with the same entries are therefore
  equal, and whatever is printed from one comes out in key order.  Keys compare
  by code points, which is also the order of their UTF-8 bytes.
-/

namespace WorkspaceTemplates

/-! ### Lists of entries -/

namespace Entries

variable {α : Type}

/-- Keys in strictly increasing order. -/
abbrev Sorted (es : List (String × α)) : Prop :=
  es.Pairwise fun a b => a.1 < b.1

/-- Put an entry at its place, replacing the value of an equal key. -/
def insert (k : String) (v : α) : List (String × α) → List (String × α)
  | [] => [(k, v)]
  | (k', v') :: rest =>
    if k < k' then (k, v) :: (k', v') :: rest
    else if k = k' then (k, v) :: rest
    else (k', v') :: insert k v rest

/-- Every key after an insertion was there before or is the new one. -/
theorem key_of_mem_insert {k : String} {v : α} {es : List (String × α)} {e : String × α}
    (h : e ∈ insert k v es) : e.1 = k ∨ e ∈ es := by
  induction es with
  | nil => simp [insert] at h; simp [h]
  | cons p rest ih =>
    simp only [insert] at h
    split at h
    · rcases List.mem_cons.1 h with rfl | h
      · exact .inl rfl
      · exact .inr h
    · split at h
      · rcases List.mem_cons.1 h with rfl | h
        · exact .inl rfl
        · exact .inr (List.mem_cons_of_mem _ h)
      · rcases List.mem_cons.1 h with rfl | h
        · exact .inr List.mem_cons_self
        · exact (ih h).imp id (List.mem_cons_of_mem _)

theorem sorted_insert {k : String} {v : α} {es : List (String × α)} (h : Sorted es) :
    Sorted (insert k v es) := by
  induction es with
  | nil => simp [insert, Sorted]
  | cons p rest ih =>
    obtain ⟨k', v'⟩ := p
    obtain ⟨hp, hr⟩ := List.pairwise_cons.1 h
    simp only [insert]
    split
    · rename_i hlt
      refine List.pairwise_cons.2 ⟨fun e he => ?_, h⟩
      rcases List.mem_cons.1 he with rfl | he
      · exact hlt
      · exact String.lt_trans hlt (hp e he)
    · split
      · rename_i heq
        subst heq
        exact List.pairwise_cons.2 ⟨hp, hr⟩
      · rename_i hnlt hne
        have hlt : k' < k := Std.lt_of_le_of_ne (String.not_lt.1 hnlt) fun e => hne e.symm
        refine List.pairwise_cons.2 ⟨fun e he => ?_, ih hr⟩
        rcases key_of_mem_insert he with hk | he
        · exact hk ▸ hlt
        · exact hp e he

end Entries

/-! ### Dictionaries -/

/-- A finite map from texts to `α`. -/
structure Dictionary (α : Type) where
  entries : List (String × α)
  sorted : Entries.Sorted entries

namespace Dictionary

variable {α β : Type}

/-- Dictionaries with the same entries are equal. -/
@[ext]
theorem ext {d e : Dictionary α} (h : d.entries = e.entries) : d = e := by
  cases d; cases e; cases h; rfl

instance [DecidableEq α] : DecidableEq (Dictionary α) := fun d e =>
  decidable_of_iff (d.entries = e.entries) ⟨ext, fun h => h ▸ rfl⟩

/-- The dictionary of entries that are in key order. -/
def ofSorted? (es : List (String × α)) : Option (Dictionary α) :=
  if h : Entries.Sorted es then some ⟨es, h⟩ else none

theorem ofSorted?_eq_some_iff {es : List (String × α)} {d : Dictionary α} :
    ofSorted? es = some d ↔ es = d.entries := by
  rw [ofSorted?]
  constructor
  · intro h
    split at h
    · rw [← Option.some.inj h]
    · cases h
  · rintro rfl
    exact dif_pos d.sorted

def empty : Dictionary α := ⟨[], .nil⟩

instance : EmptyCollection (Dictionary α) := ⟨empty⟩

instance : Inhabited (Dictionary α) := ⟨empty⟩

def insert (d : Dictionary α) (k : String) (v : α) : Dictionary α :=
  ⟨Entries.insert k v d.entries, Entries.sorted_insert d.sorted⟩

def get? (d : Dictionary α) (k : String) : Option α :=
  d.entries.lookup k

def contains (d : Dictionary α) (k : String) : Bool :=
  (d.get? k).isSome

def size (d : Dictionary α) : Nat := d.entries.length

def isEmpty (d : Dictionary α) : Bool := d.entries.isEmpty

def keys (d : Dictionary α) : List String := d.entries.map (·.1)

theorem sorted_keys (d : Dictionary α) : d.keys.Pairwise (· < ·) := List.pairwise_map.2 d.sorted

theorem nodup_keys (d : Dictionary α) : d.keys.Nodup := by
  apply d.sorted_keys.imp
  intro k k' hlt heq
  rw [heq] at hlt
  exact String.lt_irrefl k' hlt

def valueAt (d : Dictionary α) (i : Fin d.keys.length) : α :=
  (d.entries.get (i.cast (List.length_map _))).2

/-- What is made of the keys and their values, one place after another, is made of the entries. -/
theorem ofFn_valueAt (d : Dictionary α) (f : String → α → β) :
    List.ofFn (fun i => f (d.keys.get i) (d.valueAt i)) = d.entries.map fun e => f e.1 e.2 := by
  apply List.ext_getElem
  · simp [keys]
  · intro i h h'
    simp [keys, valueAt]

/-- Insert pairs one after another; of several with one key the last wins. -/
def insertAll (d : Dictionary α) (ps : List (String × α)) : Dictionary α :=
  ps.foldl (fun d p => d.insert p.1 p.2) d

def ofList (ps : List (String × α)) : Dictionary α := empty.insertAll ps

/-- Lay the entries of `e` over those of `d`. -/
def merge (d e : Dictionary α) : Dictionary α := d.insertAll e.entries

/-! ### Looking up after an insertion -/

theorem lookup_cons (k a : String) (b : α) (es : List (String × α)) :
    ((a, b) :: es).lookup k = if k = a then some b else es.lookup k := by
  rw [List.lookup_cons]
  by_cases h : k = a
  · simp [h]
  · simp [h, beq_eq_false_iff_ne.2 h]

theorem lookup_insert (k k' : String) (v : α) (es : List (String × α)) :
    (Entries.insert k v es).lookup k' = if k' = k then some v else es.lookup k' := by
  induction es with
  | nil => rw [Entries.insert, lookup_cons]
  | cons p rest ih =>
    obtain ⟨a, b⟩ := p
    simp only [Entries.insert]
    split
    · rw [lookup_cons]
    · split
      · rename_i heq
        subst heq
        simp only [lookup_cons]
        split <;> rfl
      · rename_i hne
        simp only [lookup_cons, ih]
        by_cases hk : k' = k
        · simp [hk, hne]
        · simp [hk]

/-- An insertion sets its own key and leaves every other as it was. -/
theorem get?_insert (d : Dictionary α) (k k' : String) (v : α) :
    (d.insert k v).get? k' = if k' = k then some v else d.get? k' :=
  lookup_insert k k' v d.entries

@[simp] theorem get?_empty (k : String) : (empty : Dictionary α).get? k = none := rfl

end Dictionary

end WorkspaceTemplates

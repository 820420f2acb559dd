/-
  WorkspaceTemplates/Proofs/Context/Loaded.lean
  =============================================
  **How deep a context that was read nests.**

  Whatever a text says, the maps of the context read from it nest as deep as the
  reader goes at most: 128 deep in YAML and 127 deep in JSON.  A context is filled by
  insertions, so a property of its values follows from the property of each inserted
  value.
-/
import WorkspaceTemplates.Proofs.Context.Document

namespace WorkspaceTemplates

/-- What every step of a fold keeps is true at its end. -/
theorem foldlM_keeps {α β : Type} {f : β → α → Option β} {I : β → Prop} {l : List α} {b b' : β}
    (hstep : ∀ b, ∀ a ∈ l, ∀ b', I b → f b a = some b' → I b') (hb : I b)
    (h : l.foldlM f b = some b') : I b' := by
  induction l generalizing b with
  | nil =>
    cases h
    exact hb
  | cons a l ih =>
    rw [List.foldlM_cons, Option.bind_eq_bind, Option.bind_eq_some_iff] at h
    obtain ⟨mid, hfirst, hrest⟩ := h
    have hmid : I mid := hstep b a List.mem_cons_self mid hb hfirst
    exact ih (fun b a ha => hstep b a (List.mem_cons_of_mem _ ha)) hmid hrest

/-! ### Values that are inserted -/

namespace Entries

variable {α : Type} {P : α → Prop}

theorem forall_insert {k : String} {v : α} {es : List (String × α)} (hes : ∀ e ∈ es, P e.2)
    (hv : P v) : ∀ e ∈ insert k v es, P e.2 := by
  induction es with
  | nil =>
    intro e he
    rw [List.mem_singleton.1 he]
    exact hv
  | cons p es ih =>
    have hrest : ∀ e ∈ es, P e.2 := fun e he => hes e (List.mem_cons_of_mem p he)
    rw [insert]
    split
    · exact List.forall_mem_cons.2 ⟨hv, hes⟩
    · split
      · exact List.forall_mem_cons.2 ⟨hv, hrest⟩
      · exact List.forall_mem_cons.2 ⟨hes p List.mem_cons_self, ih hrest⟩

end Entries

theorem Dictionary.forall_insertAll {α : Type} {P : α → Prop} {d : Dictionary α}
    {ps : List (String × α)} (hd : ∀ e ∈ d.entries, P e.2) (hps : ∀ e ∈ ps, P e.2) :
    ∀ e ∈ (d.insertAll ps).entries, P e.2 := by
  induction ps generalizing d with
  | nil => exact hd
  | cons p ps ih =>
    rw [List.forall_mem_cons] at hps
    exact ih (Entries.forall_insert hd hps.1) hps.2

namespace Value

/-! ### How deep values nest -/

/-- How many collections stand inside one another in a value. -/
def depth : Value → Nat
  | .list _ => 1
  | .map _ _ value => (List.ofFn fun i => depth (value i)).foldr max 0 + 1
  | .null | .bool _ | .int _ | .text _ => 0

/-- How many collections stand inside one another in the values of some entries. -/
def entriesDepth (entries : List (String × Value)) : Nat :=
  (entries.map fun e => depth e.2).foldr max 0

theorem depth_ofDictionary (d : Dictionary Value) :
    (ofDictionary d).depth = entriesDepth d.entries + 1 :=
  congrArg (fun depths : List Nat => depths.foldr max 0 + 1) (d.ofFn_valueAt fun _ v => depth v)

theorem entriesDepth_cons (e : String × Value) (es : List (String × Value)) :
    entriesDepth (e :: es) = max e.2.depth (entriesDepth es) := rfl

theorem entriesDepth_le_iff {es : List (String × Value)} {n : Nat} :
    entriesDepth es ≤ n ↔ ∀ e ∈ es, e.2.depth ≤ n := by
  induction es with
  | nil => simp [entriesDepth]
  | cons e es ih => rw [entriesDepth_cons, Nat.max_le, ih, List.forall_mem_cons]

theorem depth_ofInteger (i : Int) : (ofInteger i).depth = 0 := by
  rw [ofInteger]
  split <;> rw [depth]

/-- A map made by insertions is one deeper than the values inserted. -/
theorem depth_ofList_le {es : List (String × Value)} {n : Nat} (h : ∀ e ∈ es, e.2.depth ≤ n) :
    (ofDictionary (Dictionary.ofList es)).depth ≤ n + 1 := by
  rw [depth_ofDictionary, Nat.add_le_add_iff_right, entriesDepth_le_iff]
  exact Dictionary.forall_insertAll (P := fun v : Value => v.depth ≤ n) (List.forall_mem_nil _) h

theorem ofEntries_eq_map (es : List (Data × Data)) :
    ofEntries es = es.map fun e => (plain (ofData e.1), ofData e.2) := by
  induction es with
  | nil => rfl
  | cons e es ih =>
    rw [List.map_cons, ← ih]
    rfl

end Value

/-! ### Documents from JSON -/

namespace Json

mutual

/-- How many arrays and objects stand inside one another in a value. -/
def depth : Json → Nat
  | .array items => itemsDepth items + 1
  | .object members => membersDepth members + 1
  | .null | .bool _ | .number _ | .string _ => 0

def itemsDepth : List Json → Nat
  | [] => 0
  | j :: rest => max (depth j) (itemsDepth rest)

def membersDepth : List (String × Json) → Nat
  | [] => 0
  | (_, j) :: rest => max (depth j) (membersDepth rest)

end

theorem membersDepth_le_iff {members : List (String × Json)} {n : Nat} :
    membersDepth members ≤ n ↔ ∀ m ∈ members, m.2.depth ≤ n := by
  induction members with
  | nil => simp [membersDepth]
  | cons m members ih => rw [membersDepth, Nat.max_le, ih, List.forall_mem_cons]

end Json

namespace Value

mutual

/-- A value is no deeper than the JSON value that it is read from. -/
theorem depth_ofData_le_of_ofJson? {j : Json} {x : Data} (h : Data.ofJson? j = some x) :
    (ofData x).depth ≤ j.depth := by
  match j with
  | .null | .bool _ | .string _ | .number (.real _) =>
    cases h
    rw [ofData, depth]
    exact Nat.zero_le _
  | .number (.natural _) | .number (.negative _) =>
    cases h
    rw [ofData, depth_ofInteger]
    exact Nat.zero_le _
  | .array items =>
    rw [Data.ofJson?, Option.map_eq_some_iff] at h
    obtain ⟨xs, -, rfl⟩ := h
    rw [ofData, depth, Json.depth]
    exact Nat.le_add_left 1 _
  | .object members =>
    rw [Data.ofJson?] at h
    split at h
    · rw [Option.map_eq_some_iff] at h
      obtain ⟨es, hes, rfl⟩ := h
      rw [ofData, Json.depth]
      exact depth_ofList_le (depth_le_of_ofMembers? hes)
    · cases h

theorem depth_le_of_ofMembers? {members : List (String × Json)} {es : List (Data × Data)}
    (h : Data.ofMembers? members = some es) :
    ∀ e ∈ ofEntries es, e.2.depth ≤ Json.membersDepth members := by
  match members with
  | [] =>
    cases h
    simp [ofEntries]
  | (k, j) :: rest =>
    rw [Data.ofMembers?, Option.bind_eq_some_iff] at h
    obtain ⟨x, hx, h⟩ := h
    obtain ⟨xs, hxs, rfl⟩ := Option.map_eq_some_iff.1 h
    have hfirst := depth_ofData_le_of_ofJson? hx
    have hrest := depth_le_of_ofMembers? hxs
    rw [ofEntries, Json.membersDepth, List.forall_mem_cons]
    exact ⟨Nat.le_trans hfirst (Nat.le_max_left _ _),
      fun e he => Nat.le_trans (hrest e he) (Nat.le_max_right _ _)⟩

end

end Value

namespace Json.Reader

open Lexical (skipSpace)

/-- Nothing that is read with some fuel is as deep as the reader may go. -/
structure Shallow (fuel : Nat) : Prop where
  value : ∀ {depth : Nat} {shape : Shape} {s rest : List Char} {j : Json},
    value? fuel depth shape s = some (j, rest) → j.depth ≤ depth - 1
  items : ∀ {depth : Nat} {shape : Shape} {place : Nat} {s rest : List Char} {js : List Json},
    items? fuel depth shape place s = some (js, rest) → itemsDepth js ≤ depth - 1
  members : ∀ {depth : Nat} {shape : Shape} {s rest : List Char} {ms : List (String × Json)},
    members? fuel depth shape s = some (ms, rest) → membersDepth ms ≤ depth - 1

namespace Shallow

variable {fuel depth : Nat} {shape : Shape} {s rest : List Char}

theorem value_succ (ih : Shallow fuel) {j : Json}
    (h : value? (fuel + 1) depth shape s = some (j, rest)) : j.depth ≤ depth - 1 := by
  rw [value?] at h
  split at h
  · cases h
    exact Nat.zero_le _
  · cases h
    exact Nat.zero_le _
  · cases h
    exact Nat.zero_le _
  · obtain ⟨_, -, h⟩ := Option.map_eq_some_iff.1 h
    cases h
    exact Nat.zero_le _
  · -- an array takes one from the depth, as its items do
    split at h
    · cases h
    · split at h
      · cases h
        rw [Json.depth, itemsDepth]
        omega
      · obtain ⟨_, hitems, h⟩ := Option.map_eq_some_iff.1 h
        cases h
        have hdepth := ih.items hitems
        rw [Json.depth]
        omega
  · split at h
    · cases h
    · split at h
      · cases h
        rw [Json.depth, membersDepth]
        omega
      · obtain ⟨_, hmembers, h⟩ := Option.map_eq_some_iff.1 h
        cases h
        have hdepth := ih.members hmembers
        rw [Json.depth]
        omega
  · obtain ⟨_, -, h⟩ := Option.map_eq_some_iff.1 h
    cases h
    exact Nat.zero_le _

theorem items_succ (ih : Shallow fuel) {place : Nat} {js : List Json}
    (h : items? (fuel + 1) depth shape place s = some (js, rest)) :
    itemsDepth js ≤ depth - 1 := by
  rw [items?] at h
  split at h
  · cases h
  · rename_i hvalue
    have hfirst := ih.value hvalue
    split at h
    · obtain ⟨_, hitems, h⟩ := Option.map_eq_some_iff.1 h
      cases h
      rw [itemsDepth]
      exact Nat.max_le.2 ⟨hfirst, ih.items hitems⟩
    · cases h
      rw [itemsDepth, itemsDepth]
      exact Nat.max_le.2 ⟨hfirst, Nat.zero_le _⟩
    · cases h

theorem members_succ (ih : Shallow fuel) {ms : List (String × Json)}
    (h : members? (fuel + 1) depth shape s = some (ms, rest)) :
    membersDepth ms ≤ depth - 1 := by
  rw [members?] at h
  split at h
  · split at h
    · cases h
    · split at h
      · simp only at h
        split at h
        · cases h
        · rename_i m after hmember
          -- a member that the shape leaves out is not kept
          have hfirst : ∀ e ∈ m, e.2.depth ≤ depth - 1 := by
            split at hmember
            · obtain ⟨_, hvalue, hm⟩ := Option.map_eq_some_iff.1 hmember
              cases hm
              simpa using ih.value hvalue
            · obtain ⟨_, -, hm⟩ := Option.map_eq_some_iff.1 hmember
              cases hm
              simp
          split at h
          · obtain ⟨_, hmembers, h⟩ := Option.map_eq_some_iff.1 h
            cases h
            rw [membersDepth_le_iff, List.forall_mem_append]
            exact ⟨hfirst, membersDepth_le_iff.1 (ih.members hmembers)⟩
          · cases h
            exact membersDepth_le_iff.2 hfirst
          · cases h
      · cases h
  · cases h

end Shallow

theorem shallow (fuel : Nat) : Shallow fuel := by
  induction fuel with
  | zero => exact ⟨by simp [value?], by simp [items?], by simp [members?]⟩
  | succ fuel ih => exact ⟨ih.value_succ, ih.items_succ, ih.members_succ⟩

end Json.Reader

theorem Json.depth_of_parse? {text : String} {j : Json} (h : parse? text = some j) :
    j.depth < nestingLimit := by
  rw [parse?, parseShape?] at h
  split at h
  · rename_i hvalue
    split at h
    · cases h
      have hdepth := (Reader.shallow _).value hvalue
      exact Nat.lt_of_le_of_lt hdepth (by decide)
    · cases h
  · cases h

/-! ### Documents from YAML -/

namespace Yaml.Document

variable {d : Document} {n : Node} {used used' : Nat} {x : Data}

theorem ofData_withTag (tag : Option Tag) (x : Data) :
    Value.ofData (withTag tag x) = Value.ofData x := by
  rw [withTag]
  split
  · rw [Value.ofData]
  · rfl

theorem depth_ofData_of_isAtom (h : isAtom x = true) : (Value.ofData x).depth = 0 := by
  cases x with
  | integer i => rw [Value.ofData, Value.depth_ofInteger]
  | null | bool _ | real _ => rw [Value.ofData, Value.depth]
  | text _ | sequence _ | mapping _ | tagged _ _ => cases h

theorem depth_ofData_of_scalar {tag : Option Tag} {style : ScalarStyle} {s : String}
    (h : ((scalarData? tag style s).map fun y => (withTag tag y, used)) = some (x, used')) :
    (Value.ofData x).depth = 0 := by
  obtain ⟨y, hy, hx⟩ := Option.map_eq_some_iff.1 h
  cases hx
  rw [ofData_withTag]
  rcases scalarData?_cases hy with hatom | rfl
  · exact depth_ofData_of_isAtom hatom
  · rw [Value.ofData, Value.depth]

/-- What a node says is at most as deep as its collections may nest. -/
theorem depth_ofData_of_data? {room : Nat} (h : d.data? room n used = some (x, used')) :
    (Value.ofData x).depth ≤ room := by
  induction room generalizing n used used' x with
  | zero =>
    rw [data?, Option.bind_eq_some_iff] at h
    obtain ⟨⟨m, mid⟩, -, h⟩ := h
    cases m with
    | scalar anchor tag style s => exact Nat.le_of_eq (depth_ofData_of_scalar h)
    | sequence | mapping | «alias» => cases h
  | succ room ih =>
    have hdata := h
    rw [data?, Option.bind_eq_some_iff] at h
    obtain ⟨⟨m, mid⟩, hfollow, h⟩ := h
    cases m with
    | scalar anchor tag style s =>
      rw [depth_ofData_of_scalar h]
      exact Nat.zero_le _
    | sequence anchor tag items =>
      obtain ⟨xs, -, h⟩ := Option.map_eq_some_iff.1 h
      cases h
      rw [ofData_withTag, Value.ofData, Value.depth]
      exact Nat.le_add_left 1 room
    | mapping anchor tag entries =>
      rw [data?_mapping hfollow] at hdata
      obtain ⟨⟨es, after⟩, hfold, hx⟩ := Option.map_eq_some_iff.1 hdata
      cases hx
      have hes : ∀ e ∈ es, (Value.ofData e.2).depth ≤ room := by
        refine foldlM_keeps (I := fun acc => ∀ e ∈ acc.1, (Value.ofData e.2).depth ≤ room)
          ?_ (by simp) hfold
        rintro ⟨acc, used⟩ e - ⟨acc', used'⟩ hacc hpair
        obtain ⟨⟨k, mid⟩, -, hpair⟩ := Option.bind_eq_some_iff.1 hpair
        simp only at hpair
        split at hpair
        · cases hpair
        · obtain ⟨⟨v, after⟩, hv, hpair⟩ := Option.map_eq_some_iff.1 hpair
          cases hpair
          exact List.forall_mem_cons.2 ⟨ih hv, hacc⟩
      rw [ofData_withTag, Value.ofData]
      apply Value.depth_ofList_le
      rw [Value.ofEntries_eq_map, List.forall_mem_map]
      simpa using hes
    | «alias» a => cases h

end Yaml.Document

/-! ### Contexts that were read -/

namespace Context

variable {ctx : Context} {text : String} {P : Value → Prop}

/-- How many collections stand inside one another in a context, itself included. -/
def depth (ctx : Context) : Nat := Value.entriesDepth ctx.entries + 1

/-- A property of every value read is one of every value of a context read from JSON. -/
theorem forall_of_ofMembers? {members : List (String × Json)}
    (hmembers : ∀ m ∈ members, ∀ v, Value.ofJson? m.2 = some v → P v)
    (h : ofMembers? members = some ctx) : ∀ e ∈ ctx.entries, P e.2 := by
  refine foldlM_keeps (I := fun c : Context => ∀ e ∈ c.entries, P e.2) ?_
    (List.forall_mem_nil _) h
  intro c m hm c' hc hinsert
  obtain ⟨v, hv, rfl⟩ := Option.map_eq_some_iff.1 hinsert
  exact Entries.forall_insert hc (hmembers m hm v hv)

/-- A property of every value read is one of every value of a context read from YAML. -/
theorem forall_of_ofDocument? {d : Yaml.Document}
    (hdata : ∀ n used x used',
      d.data? (Yaml.Document.nestingLimit - 1) n used = some (x, used') → P (Value.ofData x))
    (h : ofDocument? d = some ctx) : ∀ e ∈ ctx.entries, P e.2 := by
  rw [ofDocument?] at h
  split at h
  · cases h
    exact List.forall_mem_nil _
  · obtain ⟨⟨c, used⟩, hfold, rfl⟩ := Option.map_eq_some_iff.1 h
    refine foldlM_keeps (I := fun acc : Context × Nat => ∀ e ∈ acc.1.entries, P e.2) ?_
      (List.forall_mem_nil _) hfold
    rintro ⟨acc, used⟩ e - ⟨acc', used'⟩ hacc hentry
    obtain ⟨⟨k, mid⟩, -, hentry⟩ := Option.bind_eq_some_iff.1 hentry
    simp only at hentry
    split at hentry
    · obtain ⟨⟨x, after⟩, hx, hentry⟩ := Option.map_eq_some_iff.1 hentry
      cases hentry
      exact Entries.forall_insert hacc (hdata _ _ _ _ hx)
    · cases hentry
  · split at h
    · cases h
      exact List.forall_mem_nil _
    · cases h

/-- **The maps of a context read from JSON** nest 127 deep at most. -/
theorem depth_of_ofJsonText (h : ofJsonText text = .ok ctx) : ctx.depth < Json.nestingLimit := by
  rw [ofJsonText] at h
  split at h
  · rename_i hread
    cases h
    obtain ⟨members, hparse, hmembers⟩ := Option.bind_eq_some_iff.1 hread
    obtain ⟨j, hj, hobject⟩ := Option.bind_eq_some_iff.1 hparse
    have hdepth := Json.depth_of_parse? hj
    cases j with
    | object ms =>
      cases hobject
      rw [Json.depth] at hdepth
      refine Nat.lt_of_le_of_lt ?_ hdepth
      rw [depth, Nat.add_le_add_iff_right, Value.entriesDepth_le_iff]
      refine forall_of_ofMembers? (P := fun v => v.depth ≤ Json.membersDepth members) ?_ hmembers
      intro m hm v hv
      obtain ⟨x, hx, rfl⟩ := Option.map_eq_some_iff.1 hv
      exact Nat.le_trans (Value.depth_ofData_le_of_ofJson? hx)
        (Json.membersDepth_le_iff.1 (Nat.le_refl _) m hm)
    | _ => cases hobject
  · cases h

/-- **The maps of a context read from YAML** nest 128 deep at most. -/
theorem depth_of_ofYamlText (h : ofYamlText text = .ok ctx) :
    ctx.depth ≤ Yaml.Document.nestingLimit := by
  rw [ofYamlText] at h
  split at h
  · cases h
    decide
  · split at h
    · rename_i hread
      cases h
      obtain ⟨d, -, hd⟩ := Option.bind_eq_some_iff.1 hread
      rw [depth, show Yaml.Document.nestingLimit = Yaml.Document.nestingLimit - 1 + 1 from rfl,
        Nat.add_le_add_iff_right, Value.entriesDepth_le_iff]
      exact forall_of_ofDocument? (P := fun v => v.depth ≤ Yaml.Document.nestingLimit - 1)
        (fun _ _ _ _ hx => Yaml.Document.depth_ofData_of_data? hx) hd
    · cases h

end Context

end WorkspaceTemplates

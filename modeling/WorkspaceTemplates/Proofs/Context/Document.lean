/-
  WorkspaceTemplates/Proofs/Context/Document.lean
  ===============================================
  **Contexts as documents.**

  A context is one document, `Context.toData`: integers, texts, sequences of texts
  and mappings with texts as keys.  Taking that document for values again gives the
  values back, because every map keeps its keys in order; and the reader of
  contexts, which goes through the top-level mapping entry by entry, agrees with the
  reader of documents wherever the latter finds such a document.
-/
import WorkspaceTemplates.Context.Reader
import WorkspaceTemplates.Context.Writer

namespace WorkspaceTemplates

/-! ### Inserting entries in order -/

namespace Entries

variable {α : Type}

theorem insert_of_forall_lt {k : String} {v : α} {es : List (String × α)}
    (h : ∀ e ∈ es, e.1 < k) : insert k v es = es ++ [(k, v)] := by
  induction es with
  | nil => rfl
  | cons e es ih =>
    have hlt := h e List.mem_cons_self
    rw [insert, if_neg fun hk => String.lt_irrefl _ (String.lt_trans hlt hk), if_neg,
      List.cons_append, ih fun e' he' => h e' (List.mem_cons_of_mem e he')]
    rintro rfl
    exact String.lt_irrefl _ hlt

theorem foldl_insert_of_sorted (acc : List (String × α)) {es : List (String × α)}
    (h : Sorted (acc ++ es)) :
    es.foldl (fun acc e => insert e.1 e.2 acc) acc = acc ++ es := by
  induction es generalizing acc with
  | nil => exact (List.append_nil acc).symm
  | cons e es ih =>
    have hlast : ∀ e' ∈ acc, e'.1 < e.1 := fun e' he' =>
      (List.pairwise_append.1 h).2.2 e' he' e List.mem_cons_self
    rw [List.foldl_cons, insert_of_forall_lt hlast]
    rw [List.append_cons] at h
    rw [ih _ h, ← List.append_cons]

end Entries

/-- Inserting the entries of a dictionary one after another gives the dictionary. -/
theorem Dictionary.ofList_entries {α : Type} (d : Dictionary α) : ofList d.entries = d := by
  have hentries (es : List (String × α)) (d : Dictionary α) :
      (d.insertAll es).entries = es.foldl (fun acc e => Entries.insert e.1 e.2 acc) d.entries := by
    induction es generalizing d with
    | nil => rfl
    | cons e es ih => exact ih (d.insert e.1 e.2)
  apply Dictionary.ext
  rw [ofList, hentries]
  exact Entries.foldl_insert_of_sorted [] d.sorted

/-! ### Values as documents -/

namespace Value

/-- A value as a document. -/
def toData : Value → Data
  | .null => .null
  | .bool b => .bool b
  | .int i => .integer i.toInt
  | .text s => .text s
  | .list items => .sequence (items.map .text)
  | .map keys _ value => .mapping (List.ofFn fun i => (.text (keys.get i), toData (value i)))

/-- The entries of a map as those of a mapping. -/
def entriesData (entries : List (String × Value)) : List (Data × Data) :=
  entries.map fun e => (.text e.1, toData e.2)

theorem toData_ofDictionary (d : Dictionary Value) :
    (ofDictionary d).toData = .mapping (entriesData d.entries) :=
  congrArg Data.mapping (d.ofFn_valueAt fun k v => (Data.text k, toData v))

theorem plainItems_map_text (items : List String) : plainItems (items.map .text) = items := by
  induction items with
  | nil => rfl
  | cons s items ih =>
    rw [List.map_cons, plainItems, ih, ofData]
    rfl

theorem ofInteger_toInt (i : Int64) : ofInteger i.toInt = .int i := by
  rw [ofInteger, if_pos, Int64.ofInt_toInt]
  exact ⟨Int64.minValue_le_toInt i, Int64.toInt_le i⟩

theorem ofEntries_entriesData {es : List (String × Value)}
    (h : ∀ e ∈ es, ofData (toData e.2) = e.2) : ofEntries (entriesData es) = es := by
  induction es with
  | nil => rfl
  | cons e es ih =>
    rw [List.forall_mem_cons] at h
    rw [entriesData, List.map_cons, ofEntries, h.1, ← entriesData, ih h.2]
    rfl

/-- A value is what its document says. -/
theorem ofData_toData (v : Value) : ofData (toData v) = v := by
  induction v with
  | null | bool _ | text _ => rfl
  | int i => rw [toData, ofData, ofInteger_toInt]
  | list items => rw [toData, ofData, plainItems_map_text]
  | ofDictionary d ih =>
    rw [toData_ofDictionary, ofData, ofEntries_entriesData ih, Dictionary.ofList_entries]

/-! ### Documents that values are written as -/

/-- The texts of a sequence of texts. -/
def texts? : List Data → Option (List String)
  | [] => some []
  | .text s :: rest => (texts? rest).map (s :: ·)
  | _ :: _ => none

theorem texts?_eq_some_iff {xs : List Data} {items : List String} :
    texts? xs = some items ↔ xs = items.map .text := by
  induction xs generalizing items with
  | nil => cases items <;> simp [texts?]
  | cons x xs ih =>
    cases x with
    | text s =>
      rw [texts?, Option.map_eq_some_iff]
      simp only [ih]
      cases items with
      | nil => simp
      | cons t items =>
        simp only [List.map_cons, List.cons.injEq, Data.text.injEq]
        constructor
        · rintro ⟨_, hxs, rfl, rfl⟩
          exact ⟨rfl, hxs⟩
        · rintro ⟨rfl, hxs⟩
          exact ⟨items, hxs, rfl, rfl⟩
    | _ => cases items <;> simp [texts?]

mutual

/-- The value that a document is written from, if there is one. -/
def source? : Data → Option Value
  | .null => some .null
  | .bool b => some (.bool b)
  | .integer i =>
    if (Int64.ofInt i).toInt = i then some (.int (Int64.ofInt i)) else none
  | .text s => some (.text s)
  | .sequence items => (texts? items).map .list
  | .mapping entries =>
    ((sourceEntries? entries).bind Dictionary.ofSorted?).map .ofDictionary
  | .real _ | .tagged _ _ => none

/-- The entries that those of a mapping are written from. -/
def sourceEntries? : List (Data × Data) → Option (List (String × Value))
  | [] => some []
  | (.text k, x) :: rest =>
    (source? x).bind fun v => (sourceEntries? rest).map ((k, v) :: ·)
  | _ :: _ => none

end

mutual

theorem source?_eq_some_iff (x : Data) (v : Value) : source? x = some v ↔ x = toData v := by
  match x with
  | .null => cases v <;> simp [source?, toData, ofDictionary]
  | .bool b => cases v <;> simp [source?, toData, ofDictionary]
  | .integer i =>
    cases v with
    | int j =>
      simp only [source?, toData, Option.ite_none_right_eq_some, Option.some.injEq,
        Value.int.injEq, Data.integer.injEq]
      constructor
      · rintro ⟨h, rfl⟩
        exact h.symm
      · rintro rfl
        simp
    | _ => simp [source?, toData, ofDictionary]
  | .text s => cases v <;> simp [source?, toData, ofDictionary]
  | .sequence items => cases v <;> simp [source?, toData, texts?_eq_some_iff, ofDictionary]
  | .mapping entries =>
    rw [source?, Option.map_eq_some_iff]
    simp only [Option.bind_eq_some_iff, Dictionary.ofSorted?_eq_some_iff,
      sourceEntries?_eq_some_iff entries]
    cases v with
    | ofDictionary d => simp [toData_ofDictionary, ofDictionary_inj]
    | _ => simp [toData, ofDictionary]
  | .real r => cases v <;> simp [source?, toData, ofDictionary]
  | .tagged tag content => cases v <;> simp [source?, toData, ofDictionary]

theorem sourceEntries?_eq_some_iff (xs : List (Data × Data)) (es : List (String × Value)) :
    sourceEntries? xs = some es ↔ xs = entriesData es := by
  match xs with
  | [] => cases es <;> simp [sourceEntries?, entriesData]
  | (k, x) :: rest =>
    cases k with
    | text s =>
      cases es with
      | nil => simp [sourceEntries?, entriesData, Option.bind_eq_some_iff]
      | cons e es =>
        obtain ⟨k, v⟩ := e
        simp only [sourceEntries?, entriesData, List.map_cons, Option.bind_eq_some_iff,
          Option.map_eq_some_iff, source?_eq_some_iff x, sourceEntries?_eq_some_iff rest,
          List.cons.injEq, Prod.mk.injEq, Data.text.injEq]
        constructor
        · rintro ⟨_, hx, _, hrest, ⟨rfl, rfl⟩, rfl⟩
          exact ⟨⟨rfl, hx⟩, hrest⟩
        · rintro ⟨⟨rfl, hx⟩, hrest⟩
          exact ⟨v, hx, es, hrest, ⟨rfl, rfl⟩, rfl⟩
    | _ => cases es <;> simp [sourceEntries?, entriesData]

end

end Value

/-! ### Reading the document of a context -/

namespace Yaml

theorem eq_of_withTag {tag : Option Tag} {x y : Data} (h : withTag tag x = y)
    (hy : ∀ name content, y ≠ .tagged name content) : x = y := by
  rw [withTag] at h
  split at h
  · exact absurd h.symm (hy _ _)
  · exact h

/-- Whether a document is null, a truth value or a number. -/
def isAtom : Data → Bool
  | .null | .bool _ | .integer _ | .real _ => true
  | _ => false

theorem isAtom_of_integerData? {s : String} {x : Data} (h : integerData? s = some (some x)) :
    isAtom x = true := by
  rw [integerData?] at h
  split at h
  · split at h
    · cases h
      rfl
    · split at h <;> cases h
  · cases h

theorem plainData_cases {s : String} {x : Data} (h : plainData s = some x) :
    isAtom x = true ∨ x = .text s := by
  rw [plainData] at h
  split at h
  · cases h
    exact .inl rfl
  · split at h
    · cases h
      exact .inl rfl
    · split at h
      · rename_i d hd
        exact .inl (isAtom_of_integerData? (h ▸ hd))
      · split at h
        · cases h
          exact .inl rfl
        · cases h
          exact .inr rfl

theorem scalarData?_cases {tag : Option Tag} {style : ScalarStyle} {s : String} {x : Data}
    (h : scalarData? tag style s = some x) : isAtom x = true ∨ x = .text s := by
  rw [scalarData?] at h
  split at h
  · obtain ⟨b, -, rfl⟩ := Option.map_eq_some_iff.1 h
    exact .inl rfl
  · split at h
    · exact .inl (isAtom_of_integerData? (Option.join_eq_some_iff.1 h))
    · split at h
      · obtain ⟨r, -, rfl⟩ := Option.map_eq_some_iff.1 h
        exact .inl rfl
      · split at h
        · split at h
          · cases h
            exact .inl rfl
          · cases h
        · split at h
          · exact plainData_cases h
          · cases h
            exact .inr rfl

namespace Document

variable {d : Document} {room used used' : Nat} {n : Node}

/-- What says a text is a scalar of this text, aliases followed. -/
theorem follow?_of_data?_eq_text {t : String} (h : d.data? room n used = some (.text t, used')) :
    ∃ anchor tag style, d.follow? n used = some (.scalar anchor tag style t, used') := by
  rw [data?, Option.bind_eq_some_iff] at h
  obtain ⟨⟨m, after⟩, hfollow, h⟩ := h
  cases m with
  | scalar anchor tag style s =>
    simp only [Option.map_eq_some_iff, Prod.mk.injEq] at h
    obtain ⟨x, hx, htag, rfl⟩ := h
    rw [eq_of_withTag htag nofun] at hx
    rcases scalarData?_cases hx with hatom | htext
    · cases hatom
    · cases htext
      exact ⟨anchor, tag, style, hfollow⟩
  | sequence anchor tag items =>
    cases room with
    | zero => cases h
    | succ room =>
      simp only [Option.map_eq_some_iff, Prod.mk.injEq] at h
      obtain ⟨x, -, htag, -⟩ := h
      cases eq_of_withTag htag nofun
  | mapping anchor tag entries =>
    cases room with
    | zero => cases h
    | succ room =>
      simp only [Option.map_eq_some_iff, Prod.mk.injEq] at h
      obtain ⟨x, -, htag, -⟩ := h
      cases eq_of_withTag htag nofun
  | «alias» a => cases h

/-- What says a mapping is a mapping, aliases followed. -/
theorem follow?_of_data?_eq_mapping {es : List (Data × Data)}
    (h : d.data? room n used = some (.mapping es, used')) :
    ∃ anchor tag entries mid, d.follow? n used = some (.mapping anchor tag entries, mid) := by
  rw [data?, Option.bind_eq_some_iff] at h
  obtain ⟨⟨m, mid⟩, hfollow, h⟩ := h
  cases m with
  | scalar anchor tag style s =>
    simp only [Option.map_eq_some_iff, Prod.mk.injEq] at h
    obtain ⟨x, hx, htag, -⟩ := h
    rw [eq_of_withTag htag nofun] at hx
    rcases scalarData?_cases hx with hatom | htext
    · cases hatom
    · cases htext
  | sequence anchor tag items =>
    cases room with
    | zero => cases h
    | succ room =>
      simp only [Option.map_eq_some_iff, Prod.mk.injEq] at h
      obtain ⟨x, -, htag, -⟩ := h
      cases eq_of_withTag htag nofun
  | mapping anchor tag entries => exact ⟨anchor, tag, entries, mid, hfollow⟩
  | «alias» a => cases h

/-- Add an entry to those of a mapping. -/
def withPair? (d : Document) (room : Nat) (acc : List (Data × Data) × Nat) (e : Node × Node) :
    Option (List (Data × Data) × Nat) :=
  (d.data? room e.1 acc.2).bind fun (k, used) =>
    if Data.hasKey acc.1 k then none
    else (d.data? room e.2 used).map fun (v, used) => ((k, v) :: acc.1, used)

theorem data?_mapping {anchor : Option Nat} {tag : Option Tag} {entries : List (Node × Node)}
    (h : d.follow? n used = some (.mapping anchor tag entries, used')) :
    d.data? (room + 1) n used =
      (entries.foldlM (d.withPair? room) ([], used')).map
        fun (es, used) => (withTag tag (.mapping es.reverse), used) := by
  rw [data?, h]
  rfl

/-- Reading an entry into a context is reading it into a mapping, if its key is a text. -/
theorem withEntry_of_withPair? {e : Node × Node} {acc acc' : List (Data × Data)}
    (h : d.withPair? (nestingLimit - 1) (acc, used) e = some (acc', used')) :
    ∃ k x, acc' = (k, x) :: acc ∧ ∀ key, k = .text key → ∀ c : Context,
      Context.withEntry d (c, used) e = some (c.insert key (Value.ofData x), used') := by
  rw [withPair?, Option.bind_eq_some_iff] at h
  obtain ⟨⟨k, mid⟩, hk, h⟩ := h
  simp only at h
  split at h
  · cases h
  · rw [Option.map_eq_some_iff] at h
    obtain ⟨⟨x, after⟩, hx, h⟩ := h
    cases h
    refine ⟨k, x, rfl, ?_⟩
    rintro key rfl c
    obtain ⟨anchor, tag, style, hfollow⟩ := follow?_of_data?_eq_text hk
    rw [Context.withEntry, hfollow]
    simp only [Option.bind_some, hx, Option.map_some]

/-- Reading entries into a context is reading them into a mapping, if all keys are texts. -/
theorem foldlM_withEntry {entries : List (Node × Node)} {acc acc' : List (Data × Data)}
    (h : entries.foldlM (d.withPair? (nestingLimit - 1)) (acc, used) = some (acc', used')) :
    ∃ es, acc' = es.reverse ++ acc ∧ ∀ kvs : List (String × Data),
      es = kvs.map (fun e => (Data.text e.1, e.2)) → ∀ c : Context,
        entries.foldlM (Context.withEntry d) (c, used) =
          some (kvs.foldl (fun c e => c.insert e.1 (Value.ofData e.2)) c, used') := by
  induction entries generalizing acc used with
  | nil =>
    cases h
    refine ⟨[], rfl, ?_⟩
    intro kvs hkvs c
    rw [List.map_eq_nil_iff.1 hkvs.symm]
    rfl
  | cons e entries ih =>
    rw [List.foldlM_cons, Option.bind_eq_bind, Option.bind_eq_some_iff] at h
    obtain ⟨⟨acc₁, mid⟩, he, h⟩ := h
    obtain ⟨k, x, rfl, hstep⟩ := withEntry_of_withPair? he
    obtain ⟨es, rfl, hrest⟩ := ih h
    refine ⟨(k, x) :: es, by rw [List.reverse_cons, List.append_assoc, List.singleton_append], ?_⟩
    intro kvs hkvs c
    cases kvs with
    | nil => cases hkvs
    | cons p kvs =>
      rw [List.map_cons, List.cons.injEq, Prod.mk.injEq] at hkvs
      obtain ⟨⟨hk, rfl⟩, hes⟩ := hkvs
      rw [List.foldlM_cons, hstep p.1 hk c, Option.bind_eq_bind, Option.bind_some,
        hrest kvs hes, List.foldl_cons]

end Document

/-- A document that is an alias has nothing that the alias could stand for. -/
theorem Document.anchored_of_root_alias {text : String} {d : Document} {a : Nat}
    (h : Document.parse? text = some d) (hroot : d.root = some (.alias a)) : d.anchored = [] := by
  rw [Document.parse?, Option.bind_eq_some_iff] at h
  obtain ⟨tokens, -, h⟩ := h
  obtain ⟨root, -, rfl⟩ := Option.map_eq_some_iff.1 h
  cases root with
  | none => rfl
  | some n =>
    obtain rfl := Option.some.inj hroot
    rfl

/-- What a YAML text says as a document, unless it is malformed or holds none. -/
def read? (text : String) : Option Data :=
  (Document.parse? text).bind fun d =>
    d.root.bind fun n => (d.data? Document.nestingLimit n 0).map (·.1)

end Yaml

/-! ### Reading a context back -/

namespace Context

/-- A context as a document. -/
def toData (ctx : Context) : Data := .mapping (Value.entriesData ctx.entries)

theorem foldlM_of_data? {d : Yaml.Document} {anchor : Option Nat} {tag : Option Yaml.Tag}
    {entries : List (Yaml.Node × Yaml.Node)} {used : Nat} {kvs : List (String × Data)}
    (h : d.data? Yaml.Document.nestingLimit (.mapping anchor tag entries) 0 =
      some (.mapping (kvs.map fun e => (.text e.1, e.2)), used)) :
    entries.foldlM (withEntry d) (Dictionary.empty, 0) =
      some (kvs.foldl (fun c e => c.insert e.1 (Value.ofData e.2)) Dictionary.empty, used) := by
  rw [Yaml.Document.nestingLimit, Yaml.Document.data?_mapping rfl, Option.map_eq_some_iff] at h
  obtain ⟨⟨es, after⟩, hfold, h⟩ := h
  simp only [Prod.mk.injEq] at h
  obtain ⟨htag, rfl⟩ := h
  obtain ⟨es', hes, hread⟩ := Yaml.Document.foldlM_withEntry hfold
  have hkvs := Data.mapping.inj (Yaml.eq_of_withTag htag nofun)
  rw [hes, List.append_nil, List.reverse_reverse] at hkvs
  exact hread kvs hkvs Dictionary.empty

/-- A document whose keys are texts is read as the context of its entries. -/
theorem ofDocument?_of_read? {text : String} {kvs : List (String × Data)}
    (h : Yaml.read? text = some (.mapping (kvs.map fun e => (.text e.1, e.2)))) :
    (Yaml.Document.parse? text).bind ofDocument? =
      some (kvs.foldl (fun c e => c.insert e.1 (Value.ofData e.2)) Dictionary.empty) := by
  rw [Yaml.read?, Option.bind_eq_some_iff] at h
  obtain ⟨d, hparse, h⟩ := h
  rw [Option.bind_eq_some_iff] at h
  obtain ⟨n, hroot, h⟩ := h
  rw [Option.map_eq_some_iff] at h
  obtain ⟨⟨x, used⟩, h, hx⟩ := h
  simp only at hx
  subst hx
  rw [hparse, Option.bind_some, ofDocument?, hroot]
  obtain ⟨_, _, _, _, hfollow⟩ := Yaml.Document.follow?_of_data?_eq_mapping h
  cases n with
  | scalar anchor tag style s => cases hfollow
  | sequence anchor tag items => cases hfollow
  | mapping anchor tag entries =>
    simp only [foldlM_of_data? h, Option.map_some]
  | «alias» a =>
    rw [Yaml.Document.follow?, Yaml.Document.target?,
      Yaml.Document.anchored_of_root_alias hparse hroot] at hfollow
    split at hfollow
    · cases hfollow
    · cases hfollow

theorem ofList_toData (ctx : Context) :
    (ctx.entries.map fun e => (e.1, e.2.toData)).foldl
        (fun c e => c.insert e.1 (Value.ofData e.2)) Dictionary.empty = ctx := by
  rw [List.foldl_map]
  simp only [Value.ofData_toData]
  exact ctx.ofList_entries

/-- If the document of a context is read back from a text, so is the context. -/
theorem ofDocument?_toData {text : String} {ctx : Context}
    (h : Yaml.read? text = some ctx.toData) :
    (Yaml.Document.parse? text).bind ofDocument? = some ctx := by
  have hkvs : ctx.toData =
      .mapping ((ctx.entries.map fun e => (e.1, e.2.toData)).map fun e => (.text e.1, e.2)) := by
    rw [toData, Value.entriesData, List.map_map]
    rfl
  rw [hkvs] at h
  rw [ofDocument?_of_read? h, ofList_toData]

end Context

end WorkspaceTemplates

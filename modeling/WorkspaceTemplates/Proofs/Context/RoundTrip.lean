/-
  WorkspaceTemplates/Proofs/Context/RoundTrip.lean
  ================================================
  **A printed context is read back.**

  A context is printed as YAML when it is saved and as JSON by the command that shows
  it.  Either text is read back as the context, for two reasons: the value that it is
  printed from says of every entry what the entry is (`ofJson?_toJson`,
  `ofData_toData`), and the reader finds that value in the text again.  For JSON this
  holds as long as the reader goes deep enough (`ofJsonText_jsonText_iff`); for YAML
  it is taken as given, by `PrintsFaithfully`.  The reader of JSON stops one level
  before that of YAML, so of the contexts that can be read at all, only those that
  nest 128 deep are not read back from JSON.
-/
import WorkspaceTemplates.Proofs.Cli.Run
import WorkspaceTemplates.Proofs.Context.Loaded
import WorkspaceTemplates.Proofs.Context.SaveLoad
import WorkspaceTemplates.Proofs.Distinct
import WorkspaceTemplates.Proofs.Json.RoundTrip

namespace WorkspaceTemplates

/-! ### Values as JSON -/

namespace Value

theorem fits_ofInt (i : Int64) (room : Nat) : Json.Fits room (Json.ofInt i.toInt) := by
  have hlow := Int64.le_toInt i
  have hhigh := Int64.toInt_lt i
  generalize i.toInt = z at hlow hhigh
  cases z with
  | ofNat n =>
    rw [Json.ofInt, Json.Fits, Json.Number.IsExact]
    have hsize : UInt64.size = 2 ^ 64 := rfl
    have hn : (n : Int) < 2 ^ 63 := hhigh
    omega
  | negSucc n =>
    rw [Json.ofInt, Json.Fits, Json.Number.IsExact]
    have hpow : Decimal.twoPow 63 = 2 ^ 63 := rfl
    rw [Int.negSucc_eq] at hlow
    omega

theorem fitMembers_toMembers {room : Nat} {es : List (String × Value)}
    (h : ∀ e ∈ es, Json.Fits room e.2.toJson) : Json.FitMembers room (toMembers es) := by
  induction es with
  | nil => trivial
  | cons e es ih =>
    rw [List.forall_mem_cons] at h
    rw [toMembers, List.map_cons, Json.FitMembers]
    exact ⟨h.1, ih h.2⟩

/-- A value as JSON fits where there is room for its depth. -/
theorem fits_toJson {room : Nat} (v : Value) (h : v.depth ≤ room) : Json.Fits room v.toJson := by
  induction v generalizing room with
  | null | bool _ | text _ => rw [toJson]; trivial
  | int i => exact fits_ofInt i room
  | list items =>
    rw [depth] at h
    rw [toJson, Json.strings, Json.Fits]
    exact ⟨h, Json.fitItems_map fun _ _ => trivial⟩
  | ofDictionary d ih =>
    rw [depth_ofDictionary] at h
    have hentries : entriesDepth d.entries ≤ room - 1 := by omega
    rw [toJson_ofDictionary, Json.Fits]
    exact ⟨by omega, fitMembers_toMembers fun e he =>
      ih e he (entriesDepth_le_iff.1 hentries e he)⟩

theorem ofItems?_map_string (items : List String) :
    Data.ofItems? (items.map .string) = some (items.map .text) := by
  induction items with
  | nil => rfl
  | cons s items ih =>
    rw [List.map_cons, Data.ofItems?, ih]
    rfl

/-- No name comes twice among the members of a map. -/
theorem nodup_toMembers (d : Dictionary Value) : ((toMembers d.entries).map (·.1)).Nodup := by
  rw [toMembers, List.map_map]
  exact d.nodup_keys

theorem data_toMembers {es : List (String × Value)}
    (h : ∀ e ∈ es, Data.ofJson? e.2.toJson = some e.2.toData) :
    Data.ofMembers? (toMembers es) = some (entriesData es) := by
  induction es with
  | nil => rfl
  | cons e es ih =>
    rw [List.forall_mem_cons] at h
    rw [toMembers, List.map_cons, Data.ofMembers?, h.1, ← toMembers, ih h.2]
    rfl

/-- A value as JSON says what the value as a document says. -/
theorem data_toJson (v : Value) : Data.ofJson? v.toJson = some v.toData := by
  induction v with
  | null | bool _ | text _ => rfl
  | int i =>
    rw [toJson, toData]
    cases i.toInt with
    | ofNat n => rfl
    | negSucc n => rfl
  | list items => rw [toJson, Json.strings, Data.ofJson?, ofItems?_map_string]; rfl
  | ofDictionary d ih =>
    rw [toJson_ofDictionary, toData_ofDictionary, Data.ofJson?,
      eraseDups_of_nodup (nodup_toMembers d), List.length_map, if_pos rfl, data_toMembers ih]
    rfl

/-- A value is what its JSON says. -/
theorem ofJson?_toJson (v : Value) : ofJson? v.toJson = some v := by
  rw [ofJson?, data_toJson v, Option.map_some, ofData_toData v]

end Value

/-! ### The JSON text of a context -/

namespace Context

variable {ctx : Context}

/-- A context as the command that shows it prints it in JSON. -/
def jsonText (ctx : Context) : String :=
  (Json.object (Value.toMembers ctx.entries)).pretty ++ "\n"

theorem ofMembers?_toMembers (ctx : Context) :
    ofMembers? (Value.toMembers ctx.entries) = some ctx := by
  have hfold (es : List (String × Value)) (c : Context) :
      (Value.toMembers es).foldlM
          (fun (c : Context) m => (Value.ofJson? m.2).map (c.insert m.1)) c =
        some (c.insertAll es) := by
    induction es generalizing c with
    | nil => rfl
    | cons e es ih =>
      rw [Value.toMembers, List.map_cons, List.foldlM_cons, Value.ofJson?_toJson]
      exact ih (c.insert e.1 e.2)
  rw [ofMembers?, hfold]
  exact congrArg some ctx.ofList_entries

theorem ofJsonText_jsonText (hdepth : ctx.depth < Json.nestingLimit) :
    ofJsonText ctx.jsonText = .ok ctx := by
  have hfits : Json.Fits (Json.nestingLimit - 1) (Json.object (Value.toMembers ctx.entries)) := by
    have hlimit : Json.nestingLimit = 128 := rfl
    rw [depth, ← Value.depth_ofDictionary] at hdepth
    rw [← Value.toJson_ofDictionary]
    exact Value.fits_toJson _ (by omega)
  rw [ofJsonText, jsonText, Json.parse?_pretty hfits (by decide), Option.bind_some, Json.object?,
    Option.bind_some, ofMembers?_toMembers]

/-- **The JSON text of a context is read back exactly when the reader goes deep enough.** -/
theorem ofJsonText_jsonText_iff : ofJsonText ctx.jsonText = .ok ctx ↔
    ctx.depth < Json.nestingLimit :=
  ⟨depth_of_ofJsonText, ofJsonText_jsonText⟩

end Context

/-! ### Showing a context -/

/-- A property of a context's values, of a table's values and of all texts is one of the values of
the completed context. -/
theorem Normal.forall_normalize {P : Value → Prop} {ctx : Context} {defaults : Defaults}
    (hctx : ∀ e ∈ ctx.entries, P e.2) (htable : ∀ entry ∈ defaults, P entry.2.toValue)
    (htext : ∀ s, P (.text s)) : ∀ e ∈ (normalize ctx defaults).entries, P e.2 := by
  have hfill : ∀ e ∈ (fillAll ctx defaults).entries, P e.2 := by
    rw [fillAll]
    clear htext
    induction defaults generalizing ctx with
    | nil => exact hctx
    | cons entry defaults ih =>
      rw [List.forall_mem_cons] at htable
      refine ih ?_ htable.2
      rw [fill]
      split
      · exact Entries.forall_insert hctx htable.1
      · exact hctx
  have hderive : ∀ e ∈ (deriveTechnologies (fillAll ctx defaults)).entries, P e.2 := by
    rw [deriveTechnologies]
    split
    · split
      · exact Entries.forall_insert hfill (htext _)
      · exact hfill
    · exact hfill
  rw [normalize, collapseNetworking]
  split
  · exact Entries.forall_insert hderive (htext _)
  · exact hderive

namespace Context

/-- A completed context is no deeper than the context or one list in it. -/
theorem depth_normalize_standard {ctx : Context} (hdepth : ctx.depth < Json.nestingLimit) :
    (Engine.standard.normalize ctx).depth < Json.nestingLimit := by
  have htable : ∀ entry ∈ Engine.standard.defaults, entry.2.toValue.depth ≤ 1 := by
    intro entry _
    cases entry.2 with
    | text s => exact Nat.zero_le 1
    | emptyList => exact Nat.le_refl 1
    | emptyMap => exact Nat.le_refl 1
  have hlimit : Json.nestingLimit = 128 := rfl
  rw [depth] at hdepth
  have hentries : Value.entriesDepth (Engine.standard.normalize ctx).entries ≤ 126 := by
    rw [Value.entriesDepth_le_iff]
    refine Normal.forall_normalize (P := fun v => v.depth ≤ 126) ?_ ?_ ?_
    · exact Value.entriesDepth_le_iff.1 (by omega)
    · exact fun entry h => Nat.le_trans (htable entry h) (by decide)
    · exact fun s => Nat.zero_le 126
  rw [depth]
  omega

theorem ofJsonText_normalize_standard {ctx : Context} (hdepth : ctx.depth < Json.nestingLimit) :
    ofJsonText (Engine.standard.normalize ctx).jsonText = .ok (Engine.standard.normalize ctx) := by
  have hcompleted := depth_normalize_standard hdepth
  -- the completed context is not to be computed
  generalize Engine.standard.normalize ctx = completed at hcompleted ⊢
  exact ofJsonText_jsonText hcompleted

end Context

theorem Cli.runOn_showContext_json {path : String} {c : Console} {ctx : Context}
    (h : Context.load c.disk path = .ok ctx) :
    (showContext path true).runOn c =
      (.ok (), { c with printed := c.printed ++ (Engine.standard.normalize ctx).jsonText }) := by
  rw [showContext, Stateful.runOn_bind, runOn_loadContext, h]
  rfl

/-! ### Reading a printed context -/

namespace Context

/-- A text is read as a context, so every template is rendered as it is with the context. -/
structure ReadAs (read : String → Except Fault Context) (text : String) (ctx : Context) : Prop where
  same : read text = .ok ctx
  rendered : ∀ (e : Engine) (template : String),
    (read text).map (e.render template) = .ok (e.render template ctx)

theorem readAs_of_eq {read : String → Except Fault Context} {text : String} {ctx : Context}
    (h : read text = .ok ctx) : ReadAs read text ctx := by
  refine ⟨h, ?_⟩
  intro e template
  rw [h]
  rfl

/-- **A context is read back from either of its texts.**  The reader of YAML documents is taken to
find in the printed text what was printed, within its limit.  A context that was read needs no
more for its YAML text, since it is within that limit; its JSON text is read back within the limit
of JSON, which is that of every context read from JSON.  What the command that shows a context
prints is the JSON text of the completed context. -/
theorem reload_printed (ctx : Context)
    (hyaml : ctx.depth ≤ Yaml.Document.nestingLimit → PrintsFaithfully ctx) :
    (ctx.depth ≤ Yaml.Document.nestingLimit → ReadAs ofYamlText ctx.yamlText ctx) ∧
    (ctx.depth < Json.nestingLimit → ReadAs ofJsonText ctx.jsonText ctx) ∧
    (∀ text, ofYamlText text = .ok ctx → ReadAs ofYamlText ctx.yamlText ctx ∧
      (ReadAs ofJsonText ctx.jsonText ctx ↔ ctx.depth < Json.nestingLimit)) ∧
    (∀ text, ofJsonText text = .ok ctx →
      ReadAs ofYamlText ctx.yamlText ctx ∧ ReadAs ofJsonText ctx.jsonText ctx) ∧
    ∀ (path : String) (c : Cli.Console), load c.disk path = .ok ctx →
      ctx.depth < Json.nestingLimit →
        ∃ text, (Cli.showContext path true).runOn c =
            (.ok (), { c with printed := c.printed ++ text }) ∧
          ReadAs ofJsonText text (Engine.standard.normalize ctx) := by
  have hyamlText (hdepth : ctx.depth ≤ Yaml.Document.nestingLimit) :
      ReadAs ofYamlText ctx.yamlText ctx :=
    readAs_of_eq (ofYamlText_yamlText (hyaml hdepth))
  have hjsonText (hdepth : ctx.depth < Json.nestingLimit) : ReadAs ofJsonText ctx.jsonText ctx :=
    readAs_of_eq (ofJsonText_jsonText hdepth)
  refine ⟨hyamlText, hjsonText, ?_, ?_, ?_⟩
  · intro text htext
    refine ⟨hyamlText (depth_of_ofYamlText htext), ?_⟩
    rw [← ofJsonText_jsonText_iff]
    exact ⟨fun h => h.same, readAs_of_eq⟩
  · intro text htext
    have hdepth := depth_of_ofJsonText htext
    exact ⟨hyamlText (Nat.le_of_lt hdepth), hjsonText hdepth⟩
  · intro path c hload hdepth
    exact ⟨_, Cli.runOn_showContext_json hload,
      readAs_of_eq (ofJsonText_normalize_standard hdepth)⟩

theorem reload_printed_composed :
    PrintsFaithfully composed ∧ ReadAs ofYamlText composed.yamlText composed ∧
      ReadAs ofJsonText composed.jsonText composed := by
  have hdepth : composed.depth = 3 := rfl
  obtain ⟨hyaml, hjson, -⟩ := reload_printed composed fun _ => printsFaithfully_composed
  rw [hdepth] at hyaml hjson
  exact ⟨printsFaithfully_composed, hyaml (by decide), hjson (by decide)⟩

end Context

end WorkspaceTemplates

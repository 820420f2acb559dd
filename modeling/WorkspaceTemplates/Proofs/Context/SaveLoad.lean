/-
  WorkspaceTemplates/Proofs/Context/SaveLoad.lean
  ===============================================
  **Saving a context and loading it again.**

  A context is saved as YAML whatever the path, and the reader goes by the path.
  So what is saved is read back unless the path is that of a JSON file; there the
  text is refused, since the text of a context with entries never starts as a JSON
  object does.
-/
import WorkspaceTemplates.Context.File
import WorkspaceTemplates.Proofs.Context.Document
import WorkspaceTemplates.Proofs.Files.Write

namespace WorkspaceTemplates

/-! ### Texts that are no JSON objects -/

namespace Json

/-- Whether a JSON object may start with a character: white space or a brace. -/
def mayOpenObject (c : Char) : Bool := [' ', '\n', '\t', '\r', '\x7b'].contains c

theorem skipSpace_of_value?_eq_object {fuel depth : Nat} {shape : Shape} {s rest : List Char}
    {members : List (String × Json)}
    (h : Reader.value? fuel depth shape s = some (.object members, rest)) :
    ∃ more, Lexical.skipSpace s = '\x7b' :: more := by
  cases fuel with
  | zero =>
    rw [Reader.value?] at h
    cases h
  | succ fuel =>
    rw [Reader.value?] at h
    split at h
    · cases h
    · cases h
    · cases h
    · simp at h
    · split at h
      · cases h
      · split at h
        · cases h
        · simp at h
    · rename_i more hmore
      exact ⟨more, hmore⟩
    · simp at h

theorem not_object_of_head {text : String} {c : Char} {rest : List Char}
    (htext : text.toList = c :: rest) (hc : mayOpenObject c = false) :
    (parse? text).bind object? = none := by
  simp only [mayOpenObject, List.contains_eq_mem, decide_eq_false_iff_not, List.mem_cons,
    List.not_mem_nil, or_false, not_or] at hc
  have hskip : Lexical.skipSpace text.toList = c :: rest := by
    rw [htext]
    exact List.dropWhile_cons_of_neg (by simp [hc])
  cases hparse : parse? text with
  | none => rfl
  | some j =>
    cases j with
    | object members =>
      rw [parse?, parseShape?] at hparse
      split at hparse
      · rename_i j more hvalue
        split at hparse
        · cases hparse
          obtain ⟨after, hafter⟩ := skipSpace_of_value?_eq_object hvalue
          rw [hskip] at hafter
          exact absurd (List.cons.inj hafter).1 hc.2.2.2.2
        · cases hparse
      · cases hparse
    | _ => rfl

end Json

/-! ### How the text of a context starts -/

namespace Yaml

theorem mayOpenObject_of_allowsPlain {c : Char} {rest : List Char}
    (h : allowsPlain (c :: rest) = true) : Json.mayOpenObject c = false := by
  rw [Bool.eq_false_iff]
  intro hc
  simp only [Json.mayOpenObject, List.contains_eq_mem, decide_eq_true_eq, List.mem_cons,
    List.not_mem_nil, or_false] at hc
  rcases hc with rfl | rfl | rfl | rfl | rfl
  · simp [allowsPlain, hasLooseEnds] at h
  · simp [allowsPlain, isBreak] at h
  · simp [allowsPlain, needsEscapes, isPrintable] at h
  · simp [allowsPlain, isBreak] at h
  · simp [allowsPlain, startsMarked, opensOther] at h

theorem mayOpenObject_of_scalarText {indent : Nat} {s : String} {c : Char} {rest : List Char}
    (h : (scalarText indent s).toList = c :: rest) : Json.mayOpenObject c = false := by
  rw [scalarText] at h
  split at h
  · rw [String.toList_ofList] at h
    cases h
    decide
  · rw [String.toList_ofList] at h
    cases h
    decide
  · rw [String.toList_ofList] at h
    cases h
    decide
  · rw [String.toList_ofList] at h
    cases h
    decide
  · rename_i hstyle
    rw [styleOf] at hstyle
    split at hstyle
    · split at hstyle <;> cases hstyle
    · split at hstyle
      · rename_i hplain
        rw [h] at hplain
        exact mayOpenObject_of_allowsPlain (Bool.and_eq_true_iff.1 hplain).2
      · split at hstyle <;> cases hstyle

/-- The text of a mapping with entries has a colon, and starts with the first key or its mark. -/
theorem documentText_cons (k : String) (t : Tree) (entries : List (String × Tree)) :
    ∃ start more, (documentText ((k, t) :: entries)).toList = start ++ ':' :: more ∧
      ∀ c ∈ start.head?, Json.mayOpenObject c = false := by
  rw [documentText, if_neg (by simp), entryBlocks]
  have hfirst (block : String) (blocks : List String) :
      ("".intercalate (block :: blocks)).toList =
        block.toList ++ ("".intercalate blocks).toList := by
    cases blocks with
    | nil => simp
    | cons b blocks => rw [String.intercalate_cons_cons, String.append_empty, String.toList_append]
  rw [hfirst]
  by_cases hsimple : isSimpleKey k = true
  · refine ⟨(scalarText 2 k).toList, (afterKey 0 t).toList ++
      ("".intercalate (entryBlocks 0 entries)).toList, ?_, ?_⟩
    · rw [if_pos hsimple, String.toList_append, String.toList_append, List.append_assoc,
        List.append_assoc]
      rfl
    · intro c hc
      obtain ⟨rest, hrest⟩ := List.head?_eq_some_iff.1 hc
      exact mayOpenObject_of_scalarText hrest
  · refine ⟨'?' :: ' ' :: (endLine (scalarText 2 k)).toList ++ indentation 0,
      (afterMark 0 t).toList ++ ("".intercalate (entryBlocks 0 entries)).toList, ?_, ?_⟩
    · rw [if_neg hsimple]
      simp only [String.toList_append, String.toList_ofList, List.append_assoc]
      rfl
    · intro c hc
      cases hc
      decide

theorem isAllBlank_documentText (entries : List (String × Tree)) :
    Text.isAllBlank (documentText entries) = false := by
  cases entries with
  | nil => decide
  | cons e entries =>
    obtain ⟨start, more, htext, -⟩ := documentText_cons e.1 e.2 entries
    rw [Text.isAllBlank, htext, List.all_append, List.all_cons, show Text.isBlank ':' = false from
      by decide, Bool.false_and, Bool.and_false]

end Yaml

/-! ### Saving and loading -/

namespace Context

variable {ctx : Context} {path : String} {d d' : Disk}

/-- What the reader of documents makes of the text of a context is the document of the context. -/
def PrintsFaithfully (ctx : Context) : Prop := Yaml.read? ctx.yamlText = some ctx.toData

theorem printsFaithfully_iff :
    PrintsFaithfully ctx ↔
      (Yaml.read? ctx.yamlText).bind Value.source? = some (.ofDictionary ctx) := by
  have hdata : ctx.toData = (Value.ofDictionary ctx).toData := (Value.toData_ofDictionary ctx).symm
  rw [PrintsFaithfully, hdata, Option.bind_eq_some_iff]
  simp only [Value.source?_eq_some_iff, exists_eq_right]

/-- The text of a context with entries has a colon, and no JSON object starts like it. -/
theorem yamlText_of_ne_empty (h : ctx.isEmpty = false) :
    ∃ start more, ctx.yamlText.toList = start ++ ':' :: more ∧
      ∀ c ∈ start.head?, Json.mayOpenObject c = false := by
  rw [yamlText]
  cases hes : ctx.entries with
  | nil =>
    rw [Dictionary.isEmpty, hes] at h
    cases h
  | cons e es => exact Yaml.documentText_cons e.1 e.2.toTree (Value.entryTrees es)

theorem eq_empty_of_isEmpty (h : ctx.isEmpty = true) : ctx = Dictionary.empty :=
  Dictionary.ext (List.isEmpty_iff.1 h)

theorem ofYamlText_yamlText (h : PrintsFaithfully ctx) : ofYamlText ctx.yamlText = .ok ctx := by
  rw [ofYamlText, yamlText, Yaml.isAllBlank_documentText, ← yamlText, ofDocument?_toData h]
  rfl

theorem ofJsonText_yamlText (ctx : Context) :
    ofJsonText ctx.yamlText = if ctx.isEmpty then .ok ctx else .error .json := by
  cases hempty : ctx.isEmpty with
  | true =>
    rw [eq_empty_of_isEmpty hempty]
    decide +kernel
  | false =>
    obtain ⟨start, more, htext, hstart⟩ := yamlText_of_ne_empty hempty
    have hnone : (Json.parse? ctx.yamlText).bind Json.object? = none := by
      cases start with
      | nil => exact Json.not_object_of_head htext (by decide)
      | cons c start => exact Json.not_object_of_head htext (hstart c rfl)
    rw [ofJsonText, hnone]
    rfl

/-- What was saved is the text of the file. -/
theorem readText_of_save (h : (ctx.save path).runOn d = (.ok (), d')) :
    d'.readText path = .ok ctx.yamlText :=
  DiskM.readText_of_writeAtomically h

/-- **What was saved is loaded again, except from a JSON path, where nothing but the empty context
is.**  The printed text of the context is taken to say what was printed. -/
theorem load_save (hprint : PrintsFaithfully ctx)
    (hsave : (ctx.save path).runOn d = (.ok (), d')) :
    load d' path = if isJsonPath path && !ctx.isEmpty then .error .json else .ok ctx := by
  rw [load, readText_of_save hsave]
  simp only
  by_cases hjson : isJsonPath path = true
  · rw [if_pos hjson, ofJsonText_yamlText, hjson]
    cases ctx.isEmpty <;> rfl
  · rw [if_neg hjson, ofYamlText_yamlText hprint, Bool.eq_false_iff.2 hjson]
    rfl

/-! ### A context that is lost under a JSON path -/

/-- The map of services of a context. -/
def composedServices : Dictionary Value := Dictionary.ofList [("web", .list ["http", "8080"])]

/-- A context with values of several kinds. -/
def composed : Context :=
  Dictionary.ofList [("port", .int 7), ("services", .ofDictionary composedServices)]

theorem entries_composed :
    composed.entries = [("port", .int 7), ("services", .ofDictionary composedServices)] := rfl

theorem yamlText_composed :
    composed.yamlText = "port: 7\nservices:\n  web:\n  - http\n  - '8080'\n" := by
  have hservices : composedServices.entries = [("web", .list ["http", "8080"])] := rfl
  rw [yamlText, entries_composed]
  simp only [Value.entryTrees, Value.toTree, Value.toTree_ofDictionary, hservices,
    Yaml.documentText, Yaml.entryBlocks, Yaml.afterKey, Yaml.afterMark, Yaml.itemBlocks,
    List.map_cons, List.map_nil]
  decide +kernel

theorem printsFaithfully_composed : PrintsFaithfully composed := by
  rw [printsFaithfully_iff, yamlText_composed]
  decide +kernel

theorem load_save_composed :
    PrintsFaithfully composed ∧
      ∃ d', (composed.save "out/context.yaml").runOn ⟨Tree.emptyDir, []⟩ = (.ok (), d') ∧
        load d' "out/context.yaml" = .ok composed := by
  have hok : ((composed.save "out/context.yaml").runOn ⟨Tree.emptyDir, []⟩).1 = .ok () := by
    decide +kernel
  obtain ⟨d', hsave⟩ := Stateful.exists_runOn_eq hok
  refine ⟨printsFaithfully_composed, d', hsave, ?_⟩
  rw [load_save printsFaithfully_composed hsave]
  exact if_neg (by decide +kernel)

/-- What is saved under a JSON path is not loaded again. -/
theorem not_load_save_json :
    ¬ ∀ (ctx : Context) (path : String) (d d' : Disk), PrintsFaithfully ctx →
      (ctx.save path).runOn d = (.ok (), d') → load d' path = .ok ctx := by
  intro hall
  have hok : ((composed.save "out/context.JSON").runOn ⟨Tree.emptyDir, []⟩).1 = .ok () := by
    decide +kernel
  obtain ⟨d', hsave⟩ := Stateful.exists_runOn_eq hok
  have hload := hall composed _ _ d' printsFaithfully_composed hsave
  rw [load, readText_of_save hsave] at hload
  simp only at hload
  rw [if_pos (by decide +kernel), ofJsonText_yamlText, if_neg (by decide +kernel)] at hload
  cases hload

end Context

end WorkspaceTemplates

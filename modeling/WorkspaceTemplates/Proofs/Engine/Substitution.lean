/-
  WorkspaceTemplates/Proofs/Engine/Substitution.lean
  ==================================================
  **What rendering substitutes, and what it reports.**

  Rendering replaces placeholders as they come and notes a name without a value the
  first time it meets it; a check lists the distinct names of a text and keeps those
  without a key.  `Engine.fillFrom` is the pass of rendering, with the names noted so
  far, and it makes the rendering that `fillIn` describes (`fillFrom_eq`).  The two
  reports agree because looking a name up fails exactly when it has no key, and
  because noting each name once is what `eraseDups` does.
-/
import WorkspaceTemplates.Engine
import WorkspaceTemplates.Proofs.Distinct
import WorkspaceTemplates.Proofs.Token.Cut

namespace WorkspaceTemplates

namespace Lookup

/-- A name has no displayed value exactly when it stands for no key. -/
theorem resolve?_eq_none_iff {aliases : Aliases} {name : String} {ctx : Context} :
    resolve? aliases name ctx = none ↔ key? aliases name ctx = none := by
  rw [resolve?]
  cases hkey : key? aliases name ctx with
  | none => simp
  | some key =>
    have hcontains : ctx.contains key = true := List.find?_some hkey
    have hvalue : (ctx.get? key).isSome := hcontains
    obtain ⟨value, hget⟩ := Option.isSome_iff_exists.1 hvalue
    simp [hget]

theorem isNone_resolve? (aliases : Aliases) (name : String) (ctx : Context) :
    (resolve? aliases name ctx).isNone = (key? aliases name ctx).isNone := by
  rw [Bool.eq_iff_iff, Option.isNone_iff_eq_none, Option.isNone_iff_eq_none,
    resolve?_eq_none_iff]

end Lookup

namespace Engine

open Token

/-! ### The pass of rendering -/

/-- What a token of a name gives way to, and the names noted after it. -/
def turn (e : Engine) (ctx : Context) (noted : List String) (name : List Char) :
    List Char × List String :=
  let n := String.ofList name
  if Token.isConditional n then ([], noted)
  else
    match Lookup.resolve? e.aliases n ctx with
    | some shown => (shown.toList, noted)
    | none => ([], if noted.contains n then noted else noted ++ [n])

/-- Replace the tokens of a text as they come, noting the names that have no value. -/
def fillFrom (e : Engine) (ctx : Context) (noted : List String) (s : List Char) :
    List Char × List String :=
  match s with
  | [] => ([], noted)
  | c :: rest =>
    match _h : Token.matchAt? [] (c :: rest) with
    | some (name, after) =>
      let t := e.turn ctx noted name
      let r := fillFrom e ctx t.2 after
      (t.1 ++ r.1, r.2)
    | none =>
      let r := fillFrom e ctx noted rest
      (c :: r.1, r.2)
termination_by s.length
decreasing_by
  · exact Token.length_of_matchAt? ‹_›
  · simp

section Pass

variable (e : Engine) (ctx : Context)

/-- A name lacks a value when it should have one and none is found. -/
theorem lacksValue_eq (n : String) :
    e.lacksValue ctx n =
      (!Token.isConditional n && (Lookup.resolve? e.aliases n ctx).isNone) := by
  rw [lacksValue, Lookup.isNone_resolve?]

/-- What one turn does.  The names seen so far are all the state that there is. -/
theorem turn_eq (seen : List String) (name : List Char) :
    e.turn ctx (seen.eraseDups.filter (e.lacksValue ctx)) name =
      (e.substitute ctx name,
        (seen ++ [String.ofList name]).eraseDups.filter (e.lacksValue ctx)) := by
  rw [turn, substitute, filter_eraseDups_concat, lacksValue_eq]
  cases hcond : Token.isConditional (String.ofList name) with
  | true => rfl
  | false =>
    cases hr : Lookup.resolve? e.aliases (String.ofList name) ctx with
    | some shown => rfl
    | none =>
      have hnoted : (seen.eraseDups.filter (e.lacksValue ctx)).contains (String.ofList name) =
          seen.contains (String.ofList name) := by
        rw [contains_filter_eraseDups, lacksValue_eq, hcond, hr]
        rfl
      simp only [hnoted]
      cases seen.contains (String.ofList name) <;> rfl

/-- Text in which no token starts is copied. -/
theorem fillFrom_append_of_free {u s : List Char} (h : FreeOf [] u s) (noted : List String) :
    e.fillFrom ctx noted (u ++ s) =
      (u ++ (e.fillFrom ctx noted s).1, (e.fillFrom ctx noted s).2) := by
  induction u with
  | nil => rfl
  | cons c u ih =>
    obtain ⟨hhead, hrest⟩ := freeOf_cons_iff.1 h
    rw [List.cons_append, fillFrom]
    split
    · rename_i hm
      rw [hhead] at hm
      cases hm
    · simp only [ih hrest, List.cons_append]

theorem fillFrom_text_append {name text : List Char} (htext : Spells name text)
    (noted : List String) (s : List Char) :
    e.fillFrom ctx noted (text ++ s) =
      ((e.turn ctx noted name).1 ++ (e.fillFrom ctx (e.turn ctx noted name).2 s).1,
        (e.fillFrom ctx (e.turn ctx noted name).2 s).2) := by
  have hm := htext.matchAt?_append s
  obtain ⟨rest, rfl, -⟩ := htext.exists_cons
  rw [List.cons_append] at hm ⊢
  rw [fillFrom]
  split
  · rename_i hm'
    rw [hm] at hm'
    cases hm'
    rfl
  · rename_i hm'
    rw [hm] at hm'
    cases hm'

/-- **A run of the pass over a cut text.**  `seen` are the names of the tokens before it. -/
theorem fillFrom_of_cut {s tail : List Char} {slots : List Slot} (h : Cut s slots tail)
    (seen : List String) :
    e.fillFrom ctx (seen.eraseDups.filter (e.lacksValue ctx)) s =
      (filled (fun slot => e.substitute ctx slot.name) slots tail,
        (seen ++ slots.map fun slot => String.ofList slot.name).eraseDups.filter
          (e.lacksValue ctx)) := by
  induction h generalizing seen with
  | plain hfree =>
    have hkept := fillFrom_append_of_free e ctx hfree
      (seen.eraseDups.filter (e.lacksValue ctx))
    rw [List.append_nil, fillFrom, List.append_nil] at hkept
    rw [hkept, List.map_nil, List.append_nil]
    rfl
  | slot hfree htext hcut ih =>
    rw [fillFrom_append_of_free e ctx hfree, fillFrom_text_append e ctx htext, turn_eq, ih,
      List.map_cons, ← List.append_cons seen]
    simp only [filled, List.flatMap_cons, List.append_assoc]

/-- The pass makes the rendering that `fillIn` describes. -/
theorem fillFrom_eq (text : String) :
    e.fillFrom ctx [] text.toList =
      ((e.fillIn ctx text).output.toList, (e.fillIn ctx text).missing) := by
  obtain ⟨slots, tail, hcut⟩ := exists_cut text.toList
  have hrun := fillFrom_of_cut e ctx hcut []
  rw [List.nil_append, ← hcut.allNames_eq, ← hcut.replaceAll_eq] at hrun
  rw [fillIn, String.toList_ofList]
  exact hrun

end Pass

/-! ### What a rendering is -/

/-- What a name shows in a completed context: the name of a region and a name without a key show
nothing, any other name shows the value of its key. -/
inductive Displays (e : Engine) (completed : Context) (name : String) : String → Prop where
  | conditional (hcond : Token.isConditional name = true) : Displays e completed name ""
  | unresolved (hplain : Token.isConditional name = false)
      (hkey : Lookup.key? e.aliases name completed = none) : Displays e completed name ""
  | value (hplain : Token.isConditional name = false) {key : String} {value : Value}
      (hkey : Lookup.key? e.aliases name completed = some key)
      (hvalue : completed.get? key = some value) : Displays e completed name value.display

theorem displays_substitute (e : Engine) (completed : Context) (name : List Char) :
    Displays e completed (String.ofList name) (String.ofList (e.substitute completed name)) := by
  rw [substitute]
  split
  · exact .conditional ‹_›
  · rename_i hcond
    rw [Bool.not_eq_true] at hcond
    cases hr : Lookup.resolve? e.aliases (String.ofList name) completed with
    | none => exact .unresolved hcond (Lookup.resolve?_eq_none_iff.1 hr)
    | some shown =>
      obtain ⟨key, hkey, hshown⟩ := Option.bind_eq_some_iff.1 hr
      obtain ⟨value, hvalue, rfl⟩ := Option.map_eq_some_iff.1 hshown
      rw [Option.getD_some, String.ofList_toList]
      exact .value hcond hkey hvalue

/-- A text whose regions are resolved, and what is made of it in a completed context. -/
structure Substituted (e : Engine) (completed : Context) (text : String) (r : Rendering) :
    Prop where
  /-- One pass writes the output and notes the missing names. -/
  once : e.fillFrom completed [] text.toList = (r.output.toList, r.missing)
  nodup : r.missing.Nodup
  /-- The missing names are those of the tokens that should have a value and stand for no key. -/
  missing : ∀ name, name ∈ r.missing ↔ Occurs name.toList text.toList ∧
    Token.isConditional name = false ∧ Lookup.key? e.aliases name completed = none
  /-- The text is plain text and tokens in turn.  The output is the same with what each token shows
  in its place. -/
  output : ∃ slots tail, ∃ shown : Slot → String, Cut text.toList slots tail ∧
    occurrences [] text = placed 0 slots ∧
    text.toList = filled Slot.text slots tail ∧
    r.output.toList = filled (fun slot => (shown slot).toList) slots tail ∧
    ∀ slot ∈ slots, Spells slot.name slot.text ∧
      Displays e completed (String.ofList slot.name) (shown slot)

theorem substituted_fillIn (e : Engine) (completed : Context) (text : String) :
    Substituted e completed text (e.fillIn completed text) where
  once := e.fillFrom_eq completed text
  nodup := (nodup_eraseDups _).filter _
  missing := by
    intro name
    simp only [fillIn, List.mem_filter, mem_names_iff, lacksValue, Bool.and_eq_true,
      Bool.not_eq_true', Option.isNone_iff_eq_none]
  output := by
    obtain ⟨slots, tail, hcut⟩ := exists_cut text.toList
    refine ⟨slots, tail, fun slot => String.ofList (e.substitute completed slot.name), hcut,
      hcut.occurrencesFrom_eq 0, hcut.filled_text.symm, ?_, ?_⟩
    · simp only [fillIn, String.toList_ofList, hcut.replaceAll_eq]
    · intro slot hslot
      exact ⟨hcut.spells slot hslot, displays_substitute e completed slot.name⟩

/-- **Rendering and checking agree on the text that is substituted.**  A rendering reports what a
check of the processed template does, in the same order, and its output is the processed template
with every token replaced at its own place. -/
theorem substituted_render (e : Engine) (template : String) (ctx : Context) :
    let completed := e.normalize ctx
    let text := Region.process template completed
    (e.render template ctx).missing = (e.check text ctx).missing ∧
      Substituted e completed text (e.render template ctx) :=
  ⟨rfl, substituted_fillIn e _ _⟩

end Engine

end WorkspaceTemplates

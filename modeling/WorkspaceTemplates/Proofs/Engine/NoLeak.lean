/-
  WorkspaceTemplates/Proofs/Engine/NoLeak.lean
  ============================================
  **A rendered text has no token left.**

  Conditional processing and substitution each make one pass over a text and never
  look at what they have written.  Yet no pass glues a token together as long as the
  template is spaced and no displayed value has a `<`: every change that a pass makes
  is a replacement, and the last pass replaces every token that is left.
-/
import WorkspaceTemplates.Engine
import WorkspaceTemplates.Proofs.Region

namespace WorkspaceTemplates.Engine

open Token

/-- The displayed values of the placeholders of a template have no `<` in a completed context. -/
def DisplaysPlainly (e : Engine) (template : String) (completed : Context) : Prop :=
  ∀ name ∈ Token.names template, Token.isConditional name = false →
    ∀ key value, Lookup.key? e.aliases name completed = some key →
      completed.get? key = some value → '<' ∉ value.display.toList

theorem resolve?_eq_some_iff {aliases : Aliases} {name shown : String} {ctx : Context} :
    Lookup.resolve? aliases name ctx = some shown ↔
      ∃ key value, Lookup.key? aliases name ctx = some key ∧ ctx.get? key = some value ∧
        value.display = shown := by
  simp only [Lookup.resolve?, Option.bind_eq_some_iff, Option.map_eq_some_iff,
    exists_and_left]

instance (e : Engine) (template : String) (completed : Context) :
    Decidable (DisplaysPlainly e template completed) :=
  decidable_of_iff
    (∀ name ∈ Token.names template, Token.isConditional name = false →
      '<' ∉ ((Lookup.resolve? e.aliases name completed).getD "").toList) <| by
    constructor
    · intro h name hmem hcond key value hkey hvalue
      have hname := h name hmem hcond
      rwa [resolve?_eq_some_iff.2 ⟨key, value, hkey, hvalue, rfl⟩] at hname
    · intro h name hmem hcond
      cases hr : Lookup.resolve? e.aliases name completed with
      | none => simp
      | some shown =>
        obtain ⟨key, value, hkey, hvalue, rfl⟩ := resolve?_eq_some_iff.1 hr
        exact h name hmem hcond key value hkey hvalue

/-- Nothing is substituted that has a `<`. -/
theorem not_mem_substitute {e : Engine} {template : String} {completed : Context}
    (h : DisplaysPlainly e template completed) {name : List Char}
    (hname : Occurs name template.toList) : '<' ∉ e.substitute completed name := by
  have hmem : String.ofList name ∈ Token.names template := by
    rw [mem_names_iff, String.toList_ofList]
    exact hname
  rw [substitute]
  split
  · simp
  · rename_i hcond
    have hcond : Token.isConditional (String.ofList name) = false := by simpa using hcond
    cases hr : Lookup.resolve? e.aliases (String.ofList name) completed with
    | none => simp
    | some shown =>
      obtain ⟨key, value, hkey, hvalue, rfl⟩ := resolve?_eq_some_iff.1 hr
      exact h _ hmem hcond key value hkey hvalue

/-- **No token leaks.**  For any tables, a spaced template whose placeholders display no `<` is
    rendered to a text without tokens, however its regions are paired, nested or broken. -/
theorem validate_render_of_spaced (e : Engine) (template : String) (ctx : Context)
    (hspaced : Spaced template.toList)
    (hvalues : DisplaysPlainly e template (e.normalize ctx)) :
    (validate (e.render template ctx).output).isComplete = true ∧
      (validate (e.render template ctx).output).remaining = [] := by
  have hprocess := Region.replacements_process template (e.normalize ctx)
  have hnames : Token.names (e.render template ctx).output = [] := by
    rw [names_eq_nil_iff]
    intro name
    simp only [render, fillIn, String.toList_ofList]
    refine not_occurs_replaceAll (hspaced.of_replacements hprocess) ?_ name
    intro n hn
    exact not_mem_substitute hvalues (hn.of_replacements hspaced hprocess)
  simp only [validate, Validation.isComplete, hnames, List.isEmpty_nil, and_self]

/-- A kept region with an opening token of another name in it, a stray closing token, a name
    without a value and a value that starts like no token. -/
theorem validate_render_broken_regions :
    let e : Engine := ⟨[], [("NAME", "project_name")]⟩
    let template :=
      "<PLACEHOLDER: IF_GO>> <PLACEHOLDER: IF_X><PLACEHOLDER: NAME><PLACEHOLDER:ENDIF_GO>" ++
        "<PLACEHOLDER: ENDIF_Y>PLACEHOLDER: <PLACEHOLDER: NOPE>"
    let ctx : Context :=
      Dictionary.ofList
        [("primary_language", .text "go"), ("project_name", .text "PLACEHOLDER: A>")]
    Spaced template.toList ∧ DisplaysPlainly e template (e.normalize ctx) ∧
      (validate (e.render template ctx).output).isComplete = true ∧
        (validate (e.render template ctx).output).remaining = [] := by
  intro e template ctx
  have hspaced : Spaced template.toList := by decide +kernel
  have hvalues : DisplaysPlainly e template (e.normalize ctx) := by decide +kernel
  exact ⟨hspaced, hvalues, validate_render_of_spaced e template ctx hspaced hvalues⟩

end WorkspaceTemplates.Engine

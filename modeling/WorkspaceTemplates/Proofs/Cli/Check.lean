/-
  WorkspaceTemplates/Proofs/Cli/Check.lean
  ========================================
  **What the check before rendering promises.**

  The check reads the names of a template as it stands; rendering reads those of the
  text that conditional processing leaves.  A name that rendering misses is missed by
  the check, as long as no token that is taken out follows an unfinished token:
  without that, taking one out may make a token that was not there before
  (`not_strict_render_of_check`).
-/
import WorkspaceTemplates.Proofs.Cli.Run
import WorkspaceTemplates.Proofs.Region

namespace WorkspaceTemplates

open Token

namespace Engine

variable {e : Engine} {template : String} {ctx : Context}

/-- **Rendering misses nothing that the check has not missed.** -/
theorem missing_render_subset_check
    (hspaced : SpacedBy (Region.TakenOut template.toList) template.toList) :
    (e.render template ctx).missing ⊆ (e.check template ctx).missing := by
  intro name hmem
  obtain ⟨hname, hlacks⟩ := List.mem_filter.1 hmem
  have hprocess := Region.replacements_process template (e.normalize ctx)
  have hoccurs := (mem_names_iff.1 hname).of_spacedBy_replacements hspaced hprocess
  exact List.mem_filter.2 ⟨mem_names_iff.2 hoccurs, hlacks⟩

theorem renderStrict_eq_ok_iff {file : String} {output : String} :
    e.renderStrict template ctx file = .ok output ↔
      (e.render template ctx).missing = [] ∧ (e.render template ctx).output = output := by
  simp only [renderStrict, Rendering.isComplete, List.isEmpty_iff]
  split <;> simp [*]

/-- A text that passes the check renders completely. -/
theorem missing_render_of_check
    (hspaced : SpacedBy (Region.TakenOut template.toList) template.toList)
    (hvalid : (e.check template ctx).isValid = true) : (e.render template ctx).missing = [] := by
  have hnone : (e.check template ctx).missing = [] := List.isEmpty_iff.1 hvalid
  apply List.eq_nil_of_subset_nil
  rw [← hnone]
  exact missing_render_subset_check hspaced

end Engine

namespace Cli

open CliM Stateful

variable {template context : String} {c : Console} {text : String} {ctx : Context}

/-- A check that ends well has read a context, and found no name without a value in it. -/
theorem runOn_check {json : Bool} (htext : Template.load c.disk template = .ok text)
    (h : ((check template context json).runOn c).1 = .ok ()) :
    ∃ ctx, Context.load c.disk context = .ok ctx ∧
      (Engine.standard.check text ctx).isValid = true := by
  rw [check, runOn_bind, runOn_loadTemplate, htext] at h
  simp only [Except.mapError, runOn_bind, runOn_loadContext] at h
  cases hctx : Context.load c.disk context with
  | error f =>
    rw [hctx] at h
    cases h
  | ok ctx =>
    refine ⟨ctx, rfl, ?_⟩
    rw [hctx] at h
    by_contra hvalid
    -- whatever is printed, the command ends with the number of the names
    simp only [hvalid, if_neg, not_false_eq_true] at h
    cases json <;> simp [printJson, printLine, runOn_bind] at h

theorem runOn_render_strict {json : Bool} (htext : Template.load c.disk template = .ok text)
    (hctx : Context.load c.disk context = .ok ctx)
    (hmissing : (Engine.standard.render text ctx).missing = []) :
    ((render template context true json).runOn c).1 = .ok () := by
  have hstrict : Engine.standard.renderStrict text ctx template =
      .ok (Engine.standard.render text ctx).output :=
    Engine.renderStrict_eq_ok_iff.2 ⟨hmissing, rfl⟩
  rw [render, runOn_bind, runOn_loadTemplate, htext]
  simp only [Except.mapError, runOn_bind, runOn_loadContext, hctx, if_true, hstrict]
  cases json <;> simp [printJson, printLine]

/-- **What passes the check renders strictly.**  This is said of any tables, and of the commands:
    arguments that ask for a strict rendering of what other arguments had checked. -/
theorem strict_render_of_check :
    (∀ (e : Engine) (template file : String) (ctx : Context),
      SpacedBy (Region.TakenOut template.toList) template.toList →
      (e.check template ctx).isValid = true →
      (e.render template ctx).missing = [] ∧
        e.renderStrict template ctx file = .ok (e.render template ctx).output) ∧
    ∀ (w : World) (args args' : List String) (i i' : Invocation)
      (template context text : String),
      parse args w.envRoot? = .ok i → i.action = .check template context →
      parse args' w.envRoot? = .ok i' → i'.action = .render template context true →
      Template.load w.disk template = .ok text →
      SpacedBy (Region.TakenOut text.toList) text.toList →
      (run args w).code = 0 → (run args' w).code = 0 := by
  constructor
  · intro e template file ctx hspaced hvalid
    have hmissing := Engine.missing_render_of_check hspaced hvalid
    exact ⟨hmissing, Engine.renderStrict_eq_ok_iff.2 ⟨hmissing, rfl⟩⟩
  · intro w args args' i i' template context text hargs haction hargs' haction' htext hspaced
      hcode
    have hchecked := (code_run_eq_zero_iff hargs).1 hcode
    simp only [perform, haction] at hchecked
    obtain ⟨ctx, hctx, hvalid⟩ := runOn_check htext hchecked
    have hmissing := Engine.missing_render_of_check hspaced hvalid
    apply (code_run_eq_zero_iff hargs').2
    simp only [perform, haction']
    exact runOn_render_strict htext hctx hmissing

/-- A template with a stray closing token glued to a start, and a context file for it. -/
def checkedWorld : World where
  disk :=
    ⟨.folder
      [("c.json", .file "\x7b\"team\": \"core\"\x7d".toUTF8),
        ("t", .file "<<PLACEHOLDER: ENDIF_X> <PLACEHOLDER: IF_GO><PLACEHOLDER: TEAM>".toUTF8)], []⟩
  envRoot? := none
  input := []
  time := ""

theorem strict_render_of_check_checkedWorld :
    (Engine.standard.render "<<PLACEHOLDER: ENDIF_X> <PLACEHOLDER: TEAM>"
      (Dictionary.ofList [("team", .text "core")])).missing = [] ∧
    (run ["render", "t", "--context", "c.json", "--strict"] checkedWorld).code = 0 := by
  constructor
  · exact (strict_render_of_check.1 Engine.standard _ "t" _ (by decide +kernel)
      (by decide +kernel)).1
  · exact strict_render_of_check.2 checkedWorld ["check", "t", "--context", "c.json"] _
      ⟨none, false, .check "t" "c.json"⟩ ⟨none, false, .render "t" "c.json" true⟩ "t" "c.json"
      "<<PLACEHOLDER: ENDIF_X> <PLACEHOLDER: IF_GO><PLACEHOLDER: TEAM>"
      (by decide +kernel) rfl (by decide +kernel) rfl (by decide +kernel) (by decide +kernel)
      (by decide +kernel)

/-- Taking out a marker that stands inside of an unfinished token completes that token: the check
    finds no name without a value, and the strict rendering is refused. -/
theorem not_strict_render_of_check :
    let template := "<PLACE<PLACEHOLDER: IF_X>HOLDER: NOPE>"
    (Engine.standard.check template .empty).isValid = true ∧
      (Engine.standard.render template .empty).missing = ["NOPE"] ∧
      Engine.standard.renderStrict template .empty "t" = .error (.unresolved "t" ["NOPE"]) := by
  decide +kernel

end Cli

end WorkspaceTemplates

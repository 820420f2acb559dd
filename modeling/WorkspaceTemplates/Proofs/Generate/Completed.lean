/-
  WorkspaceTemplates/Proofs/Generate/Completed.lean
  =================================================
  **A context may be completed as often as one likes.**

  Generating completes the context of a project once, selects the files by it, and
  hands it to the engine, which completes it again for every template.  None of this
  makes a difference: completing a completed context changes nothing, and a default
  never says that a file is needed.
-/
import WorkspaceTemplates.Generate
import WorkspaceTemplates.Proofs.Normal

namespace WorkspaceTemplates

/-! ### What a test of one key says of a completed context -/

section Tells

variable {ctx : Context} {defaults : Defaults} {key : String} {p : Value → Bool}

/-- Whether a key has a value that carries something and passes a test. -/
def Context.tells (ctx : Context) (key : String) (p : Value → Bool) : Bool :=
  (ctx.get? key).any fun v => !v.isEmpty && p v

theorem Context.tells_of_isMissing (h : Normal.isMissing ctx key = true) :
    ctx.tells key p = false := by
  rw [Normal.isMissing] at h
  rw [Context.tells]
  split at h
  · rename_i hnone
    rw [hnone]
    rfl
  · rename_i v hv
    cases v with
    | null =>
      rw [hv]
      rfl
    | _ => cases h

/-- A test that no default of the key passes is not changed by completing the context. -/
theorem Normal.tells_normalize (htechnologies : key ≠ "technologies")
    (hnetworking : key ≠ "networking")
    (hdefault : ∀ v ∈ defaults.get? key, (!v.toValue.isEmpty && p v.toValue) = false) :
    (normalize ctx defaults).tells key p = ctx.tells key p := by
  rw [Context.tells, get?_normalize htechnologies hnetworking, get?_fillAll]
  split
  · rename_i hmissing
    rw [Context.tells_of_isMissing hmissing]
    cases hv : defaults.get? key with
    | none => exact Context.tells_of_isMissing hmissing
    | some v => exact hdefault v hv
  · rfl

theorem Selection.isKnown_eq_tells :
    isKnown ctx key = ctx.tells key fun v => v.plain != unknown := by
  rw [isKnown, Context.tells]
  cases ctx.get? key <;> rfl

theorem Condition.mentions_eq_tells {word : String} :
    mentions ctx key word =
      ctx.tells key fun v => Text.occursIn word.toList (Text.lower v.plain).toList := by
  rw [mentions, Context.tells]
  cases ctx.get? key <;> rfl

end Tells

/-! ### Selecting files -/

namespace Selection

/-- A key whose standard default is the text `unknown` is known as much as it was before. -/
theorem isKnown_normalize (ctx : Context) (key : String)
    (hdefault : Defaults.standard.get? key = some (.text unknown)) :
    isKnown (Engine.standard.normalize ctx) key = isKnown ctx key := by
  rw [isKnown_eq_tells, isKnown_eq_tells]
  apply Normal.tells_normalize
  · rintro rfl
    exact absurd hdefault (by decide)
  · rintro rfl
    exact absurd hdefault (by decide)
  · intro v hv
    obtain rfl := Option.some.inj (hdefault.symm.trans hv)
    decide

theorem docker_holds_normalize (ctx : Context) :
    Condition.docker.holds (Engine.standard.normalize ctx) = Condition.docker.holds ctx := by
  rw [Condition.holds, Condition.holds, Condition.mentions_eq_tells, Condition.mentions_eq_tells]
  apply Normal.tells_normalize (by decide) (by decide)
  intro v hv
  obtain rfl : DefaultValue.emptyList = v := Option.some.inj hv
  rfl

/-- Completing a context does not change which levels of rules are needed. -/
theorem levels_normalize (ctx : Context) (forced : List Level) :
    levels (Engine.standard.normalize ctx) forced = levels ctx forced := by
  apply List.filter_congr
  intro l hl
  have hknown := isKnown_normalize ctx
  cases l with
  | core => simp only [needsLevel, Level.gatingKey?]
  | architecture => simp only [needsLevel, Level.gatingKey?]
  | projectType => simp only [needsLevel, Level.gatingKey?, hknown "project_type" (by decide)]
  | language => simp only [needsLevel, Level.gatingKey?, hknown "primary_language" (by decide)]
  | framework => simp only [needsLevel, Level.gatingKey?, hknown "framework" (by decide)]

/-- Completing a context does not change which kinds of commands are needed. -/
theorem commands_normalize (ctx : Context) :
    commands (Engine.standard.normalize ctx) = commands ctx := by
  apply List.filter_congr
  intro c hc
  have hknown := isKnown_normalize ctx
  cases c with
  | test => simp only [needsCommand, hknown "testing_framework" (by decide)]
  | build => simp only [needsCommand]
  | deploy => simp only [needsCommand, hknown "deployment_type" (by decide)]
  | docker => simp only [needsCommand, docker_holds_normalize]

end Selection

/-! ### Rendering and generating -/

namespace Engine

variable (e : Engine) (template : String) (ctx : Context)

theorem normalize_normalize : e.normalize (e.normalize ctx) = e.normalize ctx :=
  Normal.normalize_normalize ctx e.defaults

theorem render_normalize : e.render template (e.normalize ctx) = e.render template ctx := by
  rw [render, render, normalize_normalize]

theorem check_normalize : e.check template (e.normalize ctx) = e.check template ctx := by
  rw [check, check, normalize_normalize]

end Engine

/-- **Completing a context again is not seen anywhere.**  It changes no completed context, whatever
the defaults; it changes no rendering, no refusal and no check, for any tables; and it changes
neither the files that are selected nor what is planned, written and reported. -/
theorem completed_again (ctx : Context) :
    (∀ defaults : Defaults, Normal.normalize (Normal.normalize ctx defaults) defaults =
      Normal.normalize ctx defaults) ∧
    (∀ (e : Engine) (template file : String),
      e.render template (e.normalize ctx) = e.render template ctx ∧
      e.renderStrict template (e.normalize ctx) file = e.renderStrict template ctx file ∧
      e.check template (e.normalize ctx) = e.check template ctx) ∧
    (∀ forced : List Level,
      Selection.levels (Engine.standard.normalize ctx) forced = Selection.levels ctx forced) ∧
    Selection.commands (Engine.standard.normalize ctx) = Selection.commands ctx ∧
    (∀ (disk : Disk) (layers : List TemplateLayer) (options : GenerateOptions) (root : String),
      Generate.plan disk layers options root
          (Engine.standard.normalize (Engine.standard.normalize ctx)) =
        Generate.plan disk layers options root (Engine.standard.normalize ctx)) ∧
    ∀ (layers : List TemplateLayer) (options : GenerateOptions) (root : String),
      generate layers options root (Engine.standard.normalize ctx) =
        generate layers options root ctx := by
  refine ⟨Normal.normalize_normalize ctx, ?_, Selection.levels_normalize ctx,
    Selection.commands_normalize ctx, ?_, ?_⟩
  · intro e template file
    have hrender := e.render_normalize template ctx
    refine ⟨hrender, ?_, e.check_normalize template ctx⟩
    rw [Engine.renderStrict, Engine.renderStrict, hrender]
  · intro disk layers options root
    rw [Engine.normalize_normalize]
  · intro layers options root
    rw [generate, generate, Engine.normalize_normalize]

end WorkspaceTemplates

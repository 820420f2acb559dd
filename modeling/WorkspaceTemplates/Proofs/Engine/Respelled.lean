/-
  WorkspaceTemplates/Proofs/Engine/Respelled.lean
  ===============================================
  **The case of condition names in a template.**

  Names of conditions are read in any case, and markers that are left over are filled in
  with nothing whatever their names are.  So a template renders alike in all its
  spellings that have the same regions.  Not all of them have, since a region is closed
  by a marker that is spelled as the one that opens it; a template that writes every
  condition in one way keeps its regions in every other spelling that does so.
-/
import WorkspaceTemplates.Proofs.Engine.Composition
import WorkspaceTemplates.Proofs.Region.Respelled

namespace WorkspaceTemplates

open Token

theorem Token.IsTag.isConditional {tag : List Char} (h : IsTag tag) (name : List Char) :
    isConditional (String.ofList (tag ++ name)) = true := by
  rw [Token.isConditional, String.toList_ofList]
  rcases h with rfl | rfl
  · simp
  · simp

namespace Engine

variable {e : Engine} {completed : Context}

theorem fillIn_eq_of_respelled {text text' : String} (h : Respelled text.toList text'.toList) :
    e.fillIn completed text = e.fillIn completed text' := by
  -- markers are replaced by nothing and are not reported, whatever condition they name
  have houtput : replaceAll [] (e.substitute completed) text.toList =
      replaceAll [] (e.substitute completed) text'.toList := by
    apply h.replaceAll_eq
    intro tag name name' htag _
    simp only [substitute, htag.isConditional, if_true]
  have hmissing : (names text).filter (e.lacksValue completed) =
      (names text').filter (e.lacksValue completed) := by
    have hnames := h.filter_allNames (p := e.lacksValue completed) fun tag name htag => by
      rw [lacksValue, htag.isConditional]
      rfl
    rw [names, names, ← filter_eraseDups, ← filter_eraseDups, hnames]
  rw [fillIn, fillIn, houtput, hmissing]

/-- **A template renders alike in all its spellings that have the same regions.**  The regions are
the same in particular if each spelling writes every condition in one way. -/
theorem render_of_respelled (e : Engine) (ctx : Context) (template template' : String)
    (h : Respelled template.toList template'.toList) :
    (Region.extents (Region.cut template.toList) = Region.extents (Region.cut template'.toList) →
      e.render template ctx = e.render template' ctx) ∧
    (Region.Uniform (Region.cut template.toList) → Region.Uniform (Region.cut template'.toList) →
      e.render template ctx = e.render template' ctx) := by
  have hrender : Region.extents (Region.cut template.toList) =
      Region.extents (Region.cut template'.toList) →
        e.render template ctx = e.render template' ctx :=
    fun hextents => fillIn_eq_of_respelled (Region.respelled_process h hextents (e.normalize ctx))
  refine ⟨hrender, ?_⟩
  intro huniform huniform'
  exact hrender (Region.extents_eq_of_uniform (Region.respelled_cut h) huniform huniform')

/-- A region that is kept, and an opening marker after it that stays without a partner.  It is
written in another way than its condition before, so only the regions say that this makes no
difference; in the last spelling both markers of the region are written in one way. -/
theorem render_of_respelled_go :
    let ctx : Context := Dictionary.ofList [("primary_language", .text "go")]
    let template := "<PLACEHOLDER: IF_GO>a<PLACEHOLDER:ENDIF_GO><PLACEHOLDER: IF_Go>b"
    let mixed := "<PLACEHOLDER: IF_gO>a<PLACEHOLDER:ENDIF_gO><PLACEHOLDER: IF_GO>b"
    let uniform := "<PLACEHOLDER: IF_GO>a<PLACEHOLDER:ENDIF_GO><PLACEHOLDER: IF_GO>b"
    let uniform' := "<PLACEHOLDER: IF_go>a<PLACEHOLDER:ENDIF_go><PLACEHOLDER: IF_go>b"
    Respelled template.toList mixed.toList ∧
      Region.extents (Region.cut template.toList) = Region.extents (Region.cut mixed.toList) ∧
      standard.render template ctx = standard.render mixed ctx ∧
      Respelled uniform.toList uniform'.toList ∧ Region.Uniform (Region.cut uniform.toList) ∧
      Region.Uniform (Region.cut uniform'.toList) ∧
      standard.render uniform ctx = standard.render uniform' ctx ∧
      (standard.render mixed ctx).output = "ab" := by
  intro ctx template mixed uniform uniform'
  have hmixed : Respelled template.toList mixed.toList := by decide +kernel
  have hextents : Region.extents (Region.cut template.toList) =
      Region.extents (Region.cut mixed.toList) := by decide +kernel
  have huniform : Respelled uniform.toList uniform'.toList := by decide +kernel
  have hone : Region.Uniform (Region.cut uniform.toList) := by decide +kernel
  have hone' : Region.Uniform (Region.cut uniform'.toList) := by decide +kernel
  exact ⟨hmixed, hextents, (render_of_respelled standard ctx template mixed hmixed).1 hextents,
    huniform, hone, hone',
    (render_of_respelled standard ctx uniform uniform' huniform).2 hone hone', by decide +kernel⟩

/-- An opening marker in small letters is not closed by a marker in capitals, and so the text that
should be dropped is kept. -/
theorem render_ne_of_mixed_spelling :
    let ctx : Context := Dictionary.ofList [("primary_language", .text "go")]
    let template := "<PLACEHOLDER: IF_PYTHON>A<PLACEHOLDER: ENDIF_PYTHON>"
    let template' := "<PLACEHOLDER: IF_python>A<PLACEHOLDER: ENDIF_PYTHON>"
    Respelled template.toList template'.toList ∧ standard.render template ctx = ⟨"", []⟩ ∧
      standard.render template' ctx = ⟨"A", []⟩ := by
  decide +kernel

end Engine

end WorkspaceTemplates

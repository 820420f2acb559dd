/-
  WorkspaceTemplates/Proofs/Interview/Framework.lean
  ==================================================
  **Interviews and the conditions on frameworks.**

  An interview asks about its first framework however its name is written, but keeps the
  name as it was typed, and a condition compares what is kept with its own name, exactly.
  So the condition of a framework that was recognised holds when the answer was typed in
  lower case, and in no other case; the regions of rules go with it.
-/
import WorkspaceTemplates.Proofs.Interview.Context
import WorkspaceTemplates.Proofs.Region.Piece

namespace WorkspaceTemplates.Interview

/-- The condition of a framework that is asked about looks at the framework of the context. -/
theorem holds_of_mem_detailed {c : Condition} (h : c.name ∈ detailed) (ctx : Context) :
    c.holds ctx = ctx.hasText "framework" c.name := by
  cases c <;> first | rfl | exact absurd h (by decide)

variable {script : Script} {room : Option Nat} {ctx : Context} {d : Dialogue} {first : String}
  {c : Condition}

/-- The first framework that is answered is kept as it stands. -/
theorem framework_of_run (h : run .standard script room = (.ok ctx, d))
    (hfirst : (answeredFrameworks script).head? = some first) :
    ctx.get? "framework" = some (.text first) := by
  obtain ⟨a, ha, hs⟩ := exists_shows h
  rw [hs.framework, ha.stack.frameworks, hfirst, Option.getD_some]

theorem holds_iff_of_run (h : run .standard script room = (.ok ctx, d))
    (hfirst : (answeredFrameworks script).head? = some first) (hc : c.name ∈ detailed) :
    c.holds ctx = true ↔ first = c.name := by
  rw [holds_of_mem_detailed hc, Context.hasText, Context.text?, framework_of_run h hfirst]
  simp [Value.text?]

/-- **A recognised framework turns its condition on just when it was typed in lower case.**  With
it go the regions of rules that name the condition, in whatever case they name it. -/
theorem recognised_framework (h : run .standard script room = (.ok ctx, d))
    (hfirst : (answeredFrameworks script).head? = some first) (hseen : Text.lower first ∈ detailed)
    (hlower : Text.lower first = c.name) {name : String} (hname : Condition.ofName? name = some c) :
    (Condition.evaluate ctx name = true ↔ first = Text.lower first) ∧
      ∀ s body after, Region.matchAt? s = some (name.toList, body, after) →
        Region.resolve (Condition.evaluate (Engine.standard.normalize ctx)) s =
          (if first = Text.lower first then body else []) ++
            Region.resolve (Condition.evaluate (Engine.standard.normalize ctx)) after := by
  have hholds : Condition.evaluate ctx name = true ↔ first = Text.lower first := by
    rw [hlower] at hseen
    rw [Condition.evaluate, hname, hlower]
    exact holds_iff_of_run h hfirst hseen
  refine ⟨hholds, ?_⟩
  intro s body after hregion
  obtain ⟨a, -, hs⟩ := exists_shows h
  rw [hs.settled, Region.resolve_of_matchAt? hregion, String.ofList_toList]
  congr 1
  by_cases htyped : first = Text.lower first
  · rw [if_pos htyped, if_pos (hholds.2 htyped)]
  · rw [if_neg htyped, if_neg fun heval => htyped (hholds.1 heval)]

/-- A framework typed in lower case keeps its region. -/
theorem recognised_framework_react :
    ∃ ctx d, run .standard (Script.ofText "Shop\n3\n2\nreact, vue\nyes\n") none = (.ok ctx, d) ∧
      Condition.evaluate ctx "React" = true ∧
      Region.resolve (Condition.evaluate (Engine.standard.normalize ctx))
          "<PLACEHOLDER: IF_React>hooks<PLACEHOLDER: ENDIF_React>".toList = "hooks".toList := by
  have hgives : (run .standard (Script.ofText "Shop\n3\n2\nreact, vue\nyes\n")
      none).1.toOption.any (fun _ => true) = true := by decide +kernel
  obtain ⟨ctx, d, hrun, -⟩ := exists_run_of_any hgives
  have hfirst : (answeredFrameworks
      (Script.ofText "Shop\n3\n2\nreact, vue\nyes\n")).head? = some "react" := by decide +kernel
  have hregion : Region.matchAt? "<PLACEHOLDER: IF_React>hooks<PLACEHOLDER: ENDIF_React>".toList =
      some ("React".toList, "hooks".toList, []) := by decide +kernel
  have hname : Condition.ofName? "React" = some .react := by decide +kernel
  have hlower : "react" = Text.lower "react" := by decide +kernel
  obtain ⟨hholds, hkeeps⟩ := recognised_framework hrun hfirst (by decide +kernel)
    (by decide +kernel) hname
  refine ⟨ctx, d, hrun, hholds.2 hlower, ?_⟩
  rw [hkeeps _ _ _ hregion, if_pos hlower, Region.resolve, List.append_nil]

/-- A framework that was recognised may leave its condition off. -/
theorem not_holds_of_recognised : ¬ ∀ (script : Script) (room : Option Nat) (ctx : Context)
    (d : Dialogue), run .standard script room = (.ok ctx, d) →
      ∀ (first : String) (c : Condition), (answeredFrameworks script).head? = some first →
        Text.lower first ∈ detailed → Text.lower first = c.name →
          Condition.evaluate ctx c.name = true := by
  intro hagree
  have hoff : (run .standard (Script.ofText "Shop\n4\n1\nFastAPI\n") none).1.toOption.any
      (fun ctx => !Condition.evaluate ctx "fastapi") = true := by decide +kernel
  obtain ⟨ctx, d, hrun, hctx⟩ := exists_run_of_any hoff
  have hon := hagree _ _ ctx d hrun "FastAPI" .fastapi (by decide +kernel)
    (by decide +kernel) (by decide +kernel)
  have heval : Condition.evaluate ctx "fastapi" = true := hon
  rw [heval] at hctx
  cases hctx

end WorkspaceTemplates.Interview

/-
  WorkspaceTemplates/Proofs/Generate/Strict.lean
  ==============================================
  **Strict generations write everything or nothing.**

  All templates are read and rendered before the first file is written.  So what
  stops a generation before that leaves the disk as it is: a template that cannot be
  read, in either mode, or a name without a value, in strict mode
  (`generate_of_plan_error`).  Once neither is there, the two modes plan the same
  files (`plan_strict`) and go on alike.
-/
import WorkspaceTemplates.Proofs.Generate.Run

namespace WorkspaceTemplates.Generate

section Strict

variable {d : Disk} {layers : List TemplateLayer} {overwrite : Bool} {forced : List Level}
  {root : String} {ctx : Context}

/-- The names without a value in what a template renders to, if the template can be read. -/
def missingOf (d : Disk) (layers : List TemplateLayer) (ctx : Context) (t : Template) :
    Except Fault (List String) :=
  (t.demand d layers).map fun text => (Engine.standard.render text ctx).missing

theorem missingOf_of_demand {t : Template} {text : String} (h : t.demand d layers = .ok text) :
    missingOf d layers ctx t = .ok (Engine.standard.render text ctx).missing := by
  rw [missingOf, h]
  rfl

theorem demand_of_missingOf {t : Template} {names : List String}
    (h : missingOf d layers ctx t = .ok names) : ∃ text, t.demand d layers = .ok text := by
  rw [missingOf] at h
  cases htext : t.demand d layers with
  | error f =>
    rw [htext] at h
    cases h
  | ok text => exact ⟨text, rfl⟩

theorem missingOf_eq_error_iff {t : Template} {f : Fault} :
    missingOf d layers ctx t = .error f ↔ t.demand d layers = .error f := by
  rw [missingOf]
  cases t.demand d layers <;> simp [Except.map]

/-! ### Rendering all templates -/

theorem renderTemplate_of_demand {t : Template} {text : String}
    (h : t.demand d layers = .ok text) :
    renderTemplate d layers root ctx t = .ok (rendered root ctx t text) := by
  rw [renderTemplate, h]
  exact congrArg Except.ok (fileAt_of_ordinary (ordinary_target t) root _ _)

theorem renderAll_of_demand {ts : List Template} {text : Template → String}
    (h : ∀ t ∈ ts, t.demand d layers = .ok (text t)) :
    renderAll d layers root ctx ts = .ok (ts.map fun t => rendered root ctx t (text t)) := by
  induction ts with
  | nil => rfl
  | cons t ts ih =>
    rw [List.forall_mem_cons] at h
    rw [renderAll, renderTemplate_of_demand h.1, ih h.2]
    rfl

/-- The first template that cannot be read decides the fault. -/
theorem renderAll_of_error {before after : List Template} {t : Template} {f : Fault}
    (hbefore : ∀ u ∈ before, ∃ text, u.demand d layers = .ok text)
    (ht : t.demand d layers = .error f) :
    renderAll d layers root ctx (before ++ t :: after) = .error f := by
  induction before with
  | nil => simp [renderAll, renderTemplate, ht]
  | cons u before ih =>
    rw [List.forall_mem_cons] at hbefore
    obtain ⟨text, htext⟩ := hbefore.1
    rw [List.cons_append, renderAll, renderTemplate_of_demand htext, ih hbefore.2]

/-! ### Plans in the two modes -/

/-- A lenient plan holds whatever the templates render to. -/
theorem plan_lenient {files : List PlannedFile}
    (h : renderAll d layers root ctx
      (templates (Selection.levels ctx forced) (Selection.commands ctx)) = .ok files) :
    plan d layers ⟨false, overwrite, forced⟩ root ctx =
      .ok (files ++ manifests root ctx (Selection.levels ctx forced) (Selection.commands ctx)) := by
  simp [plan, h]

/-- A strict plan is the lenient one, unless a file has a name without a value. -/
theorem plan_strict {files : List PlannedFile}
    (h : renderAll d layers root ctx
      (templates (Selection.levels ctx forced) (Selection.commands ctx)) = .ok files) :
    plan d layers ⟨true, overwrite, forced⟩ root ctx =
      match files.find? fun f => !f.missing.isEmpty with
      | some bad => .error (.unresolved bad.label bad.missing)
      | none => plan d layers ⟨false, overwrite, forced⟩ root ctx := by
  rw [plan_lenient h]
  cases hbad : files.find? fun f => !f.missing.isEmpty with
  | none => simp only [plan, h, if_true, hbad]
  | some bad => simp only [plan, h, if_true, hbad]

theorem plan_strict_of_complete {text : Template → String}
    (htext : ∀ t ∈ templates (Selection.levels ctx forced) (Selection.commands ctx),
      t.demand d layers = .ok (text t) ∧ (Engine.standard.render (text t) ctx).missing = []) :
    plan d layers ⟨true, overwrite, forced⟩ root ctx =
      plan d layers ⟨false, overwrite, forced⟩ root ctx := by
  rw [plan_strict (renderAll_of_demand fun t ht => (htext t ht).1)]
  split
  · rename_i bad hbad
    obtain ⟨t, ht, rfl⟩ := List.mem_map.1 (List.mem_of_find?_eq_some hbad)
    have hlacks := List.find?_some hbad
    simp [rendered, (htext t ht).2] at hlacks
  · rfl

theorem plan_of_renderAll_error {strict : Bool} {f : Fault}
    (h : renderAll d layers root ctx
      (templates (Selection.levels ctx forced) (Selection.commands ctx)) = .error f) :
    plan d layers ⟨strict, overwrite, forced⟩ root ctx = .error f := by
  simp [plan, h]

/-! ### Generations in the two modes -/

/-- Without a plan the disk stays as it is. -/
theorem generate_of_plan_error {options : GenerateOptions} {f : Fault}
    (h : plan d layers options root (Engine.standard.normalize ctx) = .error f) :
    (generate layers options root ctx).runOn d = (.error f, d) := by
  rw [generate, Stateful.runOn_bind, DiskM.runOn_demand, h]

/-- A generation goes on from its plan and looks at nothing else of the mode. -/
theorem generate_congr {strict strict' : Bool}
    (h : plan d layers ⟨strict, overwrite, forced⟩ root (Engine.standard.normalize ctx) =
      plan d layers ⟨strict', overwrite, forced⟩ root (Engine.standard.normalize ctx)) :
    (generate layers ⟨strict, overwrite, forced⟩ root ctx).runOn d =
      (generate layers ⟨strict', overwrite, forced⟩ root ctx).runOn d := by
  rw [generate, generate, Stateful.runOn_bind, Stateful.runOn_bind, DiskM.runOn_demand,
    DiskM.runOn_demand, h]

/-- The first template that lacks a value stops a strict generation. -/
theorem generate_strict_of_lacking {before after : List Template} {t : Template}
    {text : Template → String}
    (htext : ∀ u ∈ before ++ t :: after, u.demand d layers = .ok (text u))
    (hts : templates (Selection.levels (Engine.standard.normalize ctx) forced)
      (Selection.commands (Engine.standard.normalize ctx)) = before ++ t :: after)
    (hbefore : ∀ u ∈ before,
      (Engine.standard.render (text u) (Engine.standard.normalize ctx)).missing = [])
    (ht : (Engine.standard.render (text t) (Engine.standard.normalize ctx)).missing ≠ []) :
    (generate layers ⟨true, overwrite, forced⟩ root ctx).runOn d =
      (.error (.unresolved t.target
        (Engine.standard.render (text t) (Engine.standard.normalize ctx)).missing), d) := by
  let file (u : Template) := rendered root (Engine.standard.normalize ctx) u (text u)
  apply generate_of_plan_error
  rw [← hts] at htext
  have hfirst : ((before ++ t :: after).map file).find? (fun f => !f.missing.isEmpty) =
      some (file t) := by
    rw [List.find?_eq_some_iff_append]
    refine ⟨by simpa [file, rendered] using ht, before.map file, after.map file, by simp, ?_⟩
    intro f hf
    obtain ⟨u, hu, rfl⟩ := List.mem_map.1 hf
    simpa [file, rendered] using hbefore u hu
  rw [plan_strict (renderAll_of_demand htext), hts, hfirst]
  rfl

theorem generate_strict_of_complete {text : Template → String}
    (htext : ∀ t ∈ templates (Selection.levels (Engine.standard.normalize ctx) forced)
      (Selection.commands (Engine.standard.normalize ctx)), t.demand d layers = .ok (text t) ∧
        (Engine.standard.render (text t) (Engine.standard.normalize ctx)).missing = []) :
    (generate layers ⟨true, overwrite, forced⟩ root ctx).runOn d =
      (generate layers ⟨false, overwrite, forced⟩ root ctx).runOn d := by
  exact generate_congr (plan_strict_of_complete htext)

/-- The first template that cannot be read stops a generation in either mode. -/
theorem generate_of_unreadable {before after : List Template} {t : Template} {f : Fault}
    {strict : Bool}
    (hts : templates (Selection.levels (Engine.standard.normalize ctx) forced)
      (Selection.commands (Engine.standard.normalize ctx)) = before ++ t :: after)
    (hbefore : ∀ u ∈ before, ∃ text, u.demand d layers = .ok text)
    (ht : t.demand d layers = .error f) :
    (generate layers ⟨strict, overwrite, forced⟩ root ctx).runOn d = (.error f, d) := by
  apply generate_of_plan_error
  apply plan_of_renderAll_error
  rw [hts]
  exact renderAll_of_error hbefore ht

end Strict

/-! ### Everything or nothing -/

/-- What holds of some item holds of a first one. -/
theorem exists_first {α : Type} {p : α → Prop} {xs : List α} (h : ∃ x ∈ xs, p x) :
    ∃ before x after, xs = before ++ x :: after ∧ (∀ y ∈ before, ¬ p y) ∧ p x := by
  classical
  have hsome : (xs.find? fun x => decide (p x)).isSome := by
    simpa only [List.find?_isSome, decide_eq_true_eq] using h
  obtain ⟨x, hx⟩ := Option.isSome_iff_exists.1 hsome
  obtain ⟨hp, before, after, rfl, hbefore⟩ := List.find?_eq_some_iff_append.1 hx
  exact ⟨before, x, after, rfl, by simpa using hbefore, by simpa using hp⟩

/-- **All or nothing.**  Of templates that can all be read, the first one that lacks a value stops a
strict generation; if none does, the mode makes no difference.  The first template that cannot be
read stops a generation in either mode.  Whatever stops a generation here changes nothing. -/
theorem strict_generate (d : Disk) (layers : List TemplateLayer) (overwrite : Bool)
    (forced : List Level) (root : String) (ctx : Context) :
    let completed := Engine.standard.normalize ctx
    let ts := templates (Selection.levels completed forced) (Selection.commands completed)
    let run strict := (generate layers ⟨strict, overwrite, forced⟩ root ctx).runOn d
    ((∀ t ∈ ts, ∃ names, missingOf d layers completed t = .ok names) →
      (∃ t ∈ ts, missingOf d layers completed t ≠ .ok []) →
      ∃ before t after names, ts = before ++ t :: after ∧
        (∀ u ∈ before, missingOf d layers completed u = .ok []) ∧
        missingOf d layers completed t = .ok names ∧ names ≠ [] ∧
        run true = (.error (.unresolved t.target names), d)) ∧
    ((∀ t ∈ ts, missingOf d layers completed t = .ok []) → run true = run false) ∧
    ((∃ t ∈ ts, ∃ f, missingOf d layers completed t = .error f) →
      ∃ before t after f, ts = before ++ t :: after ∧
        (∀ u ∈ before, ∃ names, missingOf d layers completed u = .ok names) ∧
        missingOf d layers completed t = .error f ∧
        ∀ strict, run strict = (.error f, d)) := by
  intro completed ts run
  refine ⟨?_, ?_, ?_⟩
  · -- each template has a text, and the first that lacks a value is the first bad file of the plan
    intro hread hlacks
    obtain ⟨before, t, after, hts, hbefore, ht⟩ := exists_first hlacks
    simp only [ne_eq, not_not] at hbefore
    choose! text htext using fun u hu => demand_of_missingOf (hread u hu).choose_spec
    rw [hts] at htext
    have hmissing : ∀ u ∈ before ++ t :: after, missingOf d layers completed u =
        .ok (Engine.standard.render (text u) completed).missing :=
      fun u hu => missingOf_of_demand (htext u hu)
    rw [hmissing t (by simp)] at ht
    have hne : (Engine.standard.render (text t) completed).missing ≠ [] :=
      fun hnil => ht (congrArg Except.ok hnil)
    refine ⟨before, t, after, _, hts, hbefore, hmissing t (by simp), hne, ?_⟩
    apply generate_strict_of_lacking htext hts _ hne
    intro u hu
    exact Except.ok.inj ((hmissing u (List.mem_append_left _ hu)).symm.trans (hbefore u hu))
  · intro hnone
    choose! text htext using fun u hu => demand_of_missingOf (hnone u hu)
    apply generate_strict_of_complete
    intro t ht
    exact ⟨htext t ht, Except.ok.inj ((missingOf_of_demand (htext t ht)).symm.trans (hnone t ht))⟩
  · -- the templates before the first unreadable one are rendered, but nothing is written yet
    intro hfails
    obtain ⟨before, t, after, hts, hbefore, f, hf⟩ := exists_first hfails
    have hread : ∀ u ∈ before, ∃ names, missingOf d layers completed u = .ok names := by
      intro u hu
      cases hnames : missingOf d layers completed u with
      | ok names => exact ⟨names, rfl⟩
      | error g => exact absurd ⟨g, hnames⟩ (hbefore u hu)
    refine ⟨before, t, after, f, hts, hread, hf, ?_⟩
    intro strict
    apply generate_of_unreadable hts _ (missingOf_eq_error_iff.1 hf)
    intro u hu
    obtain ⟨names, hnames⟩ := hread u hu
    exact demand_of_missingOf hnames

/-- The core rules need a team, and nothing is read without layers. -/
theorem strict_generate_started :
    (∃ t names, names ≠ [] ∧
      (generate [.directory "t"] ⟨true, false, []⟩ "ws" .empty).runOn (started []) =
        (.error (.unresolved (Template.target t) names), started [])) ∧
    (generate [.directory "t"] ⟨true, false, []⟩ "ws"
        (Dictionary.ofList [("team", .text "core")])).runOn (started []) =
      (generate [.directory "t"] ⟨false, false, []⟩ "ws"
        (Dictionary.ofList [("team", .text "core")])).runOn (started []) ∧
    ∃ f, ∀ strict, (generate [] ⟨strict, false, []⟩ "ws" .empty).runOn (started []) =
      (.error f, started []) := by
  refine ⟨?_, ?_, ?_⟩
  · have hread : ∀ t ∈ templates (Selection.levels (Engine.standard.normalize .empty) [])
        (Selection.commands (Engine.standard.normalize .empty)),
        missingOf (started []) [.directory "t"] (Engine.standard.normalize .empty) t = .ok [] ∨
        missingOf (started []) [.directory "t"] (Engine.standard.normalize .empty) t =
          .ok ["TEAM"] := by decide +kernel
    obtain ⟨-, t, -, names, -, -, -, hne, hrun⟩ :=
      (strict_generate (started []) [.directory "t"] false [] "ws" .empty).1
        (fun t ht => (hread t ht).elim (fun h => ⟨_, h⟩) fun h => ⟨_, h⟩) (by decide +kernel)
    exact ⟨t, names, hne, hrun⟩
  · exact (strict_generate (started []) [.directory "t"] false [] "ws"
      (Dictionary.ofList [("team", .text "core")])).2.1 (by decide +kernel)
  · obtain ⟨-, -, -, f, -, -, -, hrun⟩ :=
      (strict_generate (started []) [] false [] "ws" .empty).2.2
        ⟨.cursorRules, by decide +kernel, .templateNotFound "cursorrules", by decide +kernel⟩
    exact ⟨f, hrun⟩

end WorkspaceTemplates.Generate

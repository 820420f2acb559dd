/-
  WorkspaceTemplates/Stateful.lean
  ================================
  **Computations with a state.**

  What changes a disk, talks, pushes findings or runs a command is a computation
  with a state that may fail, and what it changed before it failed stays changed.
  `runOn` starts such a computation on a state and gives its result with the state
  that it leaves behind.  There is one law for each way of putting computations
  together, so that no proof looks inside the monad.
-/

namespace WorkspaceTemplates

/-- A computation that may change a state and may fail, keeping what it changed. -/
abbrev Stateful (ε σ : Type) := ExceptT ε (StateM σ)

namespace Stateful

variable {ε σ α β : Type}

/-- The result of a computation on a state, and the state afterwards. -/
def runOn (m : Stateful ε σ α) (s : σ) : Except ε α × σ := (StateT.run (ExceptT.run m) s : _)

@[simp] theorem runOn_pure (x : α) (s : σ) : (pure x : Stateful ε σ α).runOn s = (.ok x, s) := rfl

@[simp] theorem runOn_throw (e : ε) (s : σ) :
    (throw e : Stateful ε σ α).runOn s = (.error e, s) := rfl

@[simp] theorem runOn_get (s : σ) : (get : Stateful ε σ σ).runOn s = (.ok s, s) := rfl

@[simp] theorem runOn_set (s s' : σ) :
    (set s' : Stateful ε σ PUnit).runOn s = (.ok ⟨⟩, s') := rfl

@[simp] theorem runOn_modify (change : σ → σ) (s : σ) :
    (modify change : Stateful ε σ PUnit).runOn s = (.ok ⟨⟩, change s) := rfl

/-- A sequence goes on from the state that its first part leaves, unless that part failed. -/
theorem runOn_bind (m : Stateful ε σ α) (f : α → Stateful ε σ β) (s : σ) :
    (m >>= f).runOn s =
      match m.runOn s with
      | (.ok x, s') => (f x).runOn s'
      | (.error e, s') => (.error e, s') := by
  show (match m.runOn s with
    | (r, s') => (ExceptT.bindCont f r : StateM σ (Except ε β)).run s') = _
  cases m.runOn s with
  | mk r s' => cases r <;> rfl

theorem runOn_bind_of_ok {m : Stateful ε σ α} {f : α → Stateful ε σ β} {s s' : σ} {x : α}
    (h : m.runOn s = (.ok x, s')) : (m >>= f).runOn s = (f x).runOn s' := by
  rw [runOn_bind, h]

theorem runOn_bind_of_error {m : Stateful ε σ α} {f : α → Stateful ε σ β} {s s' : σ} {e : ε}
    (h : m.runOn s = (.error e, s')) : (m >>= f).runOn s = (.error e, s') := by
  rw [runOn_bind, h]

/-- The first part of a sequence that gives a result gave one too. -/
theorem runOn_bind_eq_ok_iff {m : Stateful ε σ α} {f : α → Stateful ε σ β} {s s' : σ} {y : β} :
    (m >>= f).runOn s = (.ok y, s') ↔
      ∃ x s₁, m.runOn s = (.ok x, s₁) ∧ (f x).runOn s₁ = (.ok y, s') := by
  rw [runOn_bind]
  cases h : m.runOn s with
  | mk r s₁ =>
    cases r with
    | error e =>
      constructor
      · intro he
        cases he
      · rintro ⟨x, s₂, hx, -⟩
        cases hx
    | ok x =>
      constructor
      · intro hy
        exact ⟨x, s₁, rfl, hy⟩
      · rintro ⟨x', s₂, hx, hy⟩
        cases hx
        exact hy

/-- A failure is handled on the state that the failed computation leaves. -/
theorem runOn_tryCatch (m : Stateful ε σ α) (handle : ε → Stateful ε σ α) (s : σ) :
    (tryCatch m handle).runOn s =
      match m.runOn s with
      | (.ok x, s') => (.ok x, s')
      | (.error e, s') => (handle e).runOn s' := by
  simp only [runOn, tryCatch, tryCatchThe, MonadExceptOf.tryCatch, ExceptT.tryCatch, ExceptT.mk,
    ExceptT.run, StateT.run, bind, StateT.bind]
  cases m s with
  | mk r s' => cases r <;> rfl

theorem exists_runOn_eq {m : Stateful ε σ α} {s : σ} {r : Except ε α} (h : (m.runOn s).1 = r) :
    ∃ s', m.runOn s = (r, s') :=
  ⟨(m.runOn s).2, Prod.ext h rfl⟩

end Stateful

end WorkspaceTemplates

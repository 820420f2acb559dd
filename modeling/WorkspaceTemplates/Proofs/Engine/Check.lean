/-
  WorkspaceTemplates/Proofs/Engine/Check.lean
  ===========================================
  **What the check before rendering looks at.**

  A name has a value as soon as one of the keys that are tried for it is set, so a key
  more can only take names off the list of those without one.  With the standard tables
  a completed context has the keys of the table and its own, whatever their values are,
  and so the check sees keys only.
-/
import Mathlib.Data.List.Basic
import WorkspaceTemplates.Engine
import WorkspaceTemplates.Proofs.Normal

namespace WorkspaceTemplates

variable {ctx ctx' : Context}

/-- A name without a key has none in a context with fewer keys. -/
theorem Lookup.isNone_key?_of_contains {aliases : Aliases} {name : String}
    (hkeys : ∀ key, ctx.contains key = true → ctx'.contains key = true)
    (h : (key? aliases name ctx').isNone = true) : (key? aliases name ctx).isNone = true := by
  rw [Option.isNone_iff_eq_none, key?, List.find?_eq_none] at h ⊢
  exact fun key hmem hkey => h key hmem (hkeys key hkey)

namespace Engine

variable {e : Engine}

theorem contains_normalize_of_contains (htable : (e.defaults.get? "technologies").isSome = true)
    (hkeys : ∀ key, ctx.contains key = true → ctx'.contains key = true) (key : String)
    (h : (e.normalize ctx).contains key = true) : (e.normalize ctx').contains key = true := by
  rw [normalize, Normal.contains_normalize htable, Bool.or_eq_true] at h ⊢
  exact h.imp (hkeys key) id

theorem missing_check_sublist (htable : (e.defaults.get? "technologies").isSome = true)
    (template : String) (hkeys : ∀ key, ctx.contains key = true → ctx'.contains key = true) :
    (e.check template ctx').missing.Sublist (e.check template ctx).missing := by
  apply List.monotone_filter_right
  intro name h
  rw [lacksValue, Bool.and_eq_true] at h ⊢
  exact h.imp id
    (Lookup.isNone_key?_of_contains (contains_normalize_of_contains htable hkeys))

/-- Contexts whose keys are the same are checked alike: each list is part of the other. -/
theorem check_eq_of_contains (htable : (e.defaults.get? "technologies").isSome = true)
    (template : String) (hkeys : ∀ key, ctx.contains key = ctx'.contains key) :
    e.check template ctx = e.check template ctx' := by
  have h := missing_check_sublist htable template fun key hkey => (hkeys key).symm.trans hkey
  have h' := missing_check_sublist htable template fun key hkey => (hkeys key).trans hkey
  rw [ContextCheck.mk.injEq]
  exact h'.antisymm h

/-- **The check looks at keys only, and more keys leave fewer names.**  With the standard tables,
setting more keys, to any values, takes names off the list of the missing ones and adds none;
contexts with the same keys are checked alike. -/
theorem check_of_keys (template : String) (ctx ctx' : Context) :
    ((∀ key, ctx.contains key = true → ctx'.contains key = true) →
      (standard.check template ctx').missing.Sublist (standard.check template ctx).missing) ∧
    ((∀ key, ctx.contains key = ctx'.contains key) →
      standard.check template ctx = standard.check template ctx') :=
  ⟨missing_check_sublist rfl template, check_eq_of_contains rfl template⟩

/-- A null value is enough for a name, also under a key in camel case, and counts as much as any
other value. -/
theorem check_of_keys_team_size :
    let template := "<PLACEHOLDER: TECHNOLOGIES><PLACEHOLDER: OWNER><PLACEHOLDER: IF_GO>" ++
      "<PLACEHOLDER: TEAM_SIZE>"
    let few : Context := Dictionary.ofList [("languages", .list ["go"])]
    let more := few.insert "teamSize" .null
    (∀ key, few.contains key = true → more.contains key = true) ∧
      (standard.check template more).missing.Sublist (standard.check template few).missing ∧
      (∀ key, more.contains key = (few.insert "teamSize" (.int 4)).contains key) ∧
      standard.check template more = standard.check template (few.insert "teamSize" (.int 4)) ∧
      (standard.check template few).missing = ["OWNER", "TEAM_SIZE"] ∧
      (standard.check template more).missing = ["OWNER"] := by
  intro template few more
  have hmore : ∀ key, few.contains key = true → more.contains key = true := by
    intro key hkey
    rw [Dictionary.contains, Dictionary.get?_insert]
    split
    · rfl
    · exact hkey
  have hsame : ∀ key, more.contains key = (few.insert "teamSize" (.int 4)).contains key := by
    intro key
    rw [Dictionary.contains, Dictionary.contains, Dictionary.get?_insert, Dictionary.get?_insert]
    split <;> rfl
  exact ⟨hmore, (check_of_keys template few more).1 hmore, hsame,
    (check_of_keys template more (few.insert "teamSize" (.int 4))).2 hsame, by decide +kernel,
    by decide +kernel⟩

end Engine

end WorkspaceTemplates

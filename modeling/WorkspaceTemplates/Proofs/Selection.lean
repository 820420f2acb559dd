/-
  WorkspaceTemplates/Proofs/Selection.lean
  ========================================
  **Which levels are selected.**

  Levels are selected from the list of all of them, so a selection is in the order of
  their numbers.  A level that depends on a key is selected when the key is known or
  the level is forced, and nothing else is asked of the forced levels: how often and
  in which order they are forced makes no difference (`levels_congr`).
-/
import WorkspaceTemplates.Selection
import Mathlib.Data.List.Basic

namespace WorkspaceTemplates.Selection

variable {ctx : Context} {key : String} {forced more : List Level} {l : Level}

theorem isKnown_eq_true_iff :
    isKnown ctx key = true ↔
      ∃ v, ctx.get? key = some v ∧ v.isEmpty = false ∧ v.plain ≠ unknown := by
  rw [isKnown]
  cases ctx.get? key with
  | none => simp
  | some v => simp

theorem needsLevel_eq_true_iff :
    needsLevel ctx forced l = true ↔
      ∀ key, l.gatingKey? = some key → isKnown ctx key = true ∨ l ∈ forced := by
  rw [needsLevel]
  cases l.gatingKey? with
  | none => simp
  | some key => simp

theorem mem_levels_iff :
    l ∈ levels ctx forced ↔
      ∀ key, l.gatingKey? = some key → isKnown ctx key = true ∨ l ∈ forced := by
  rw [levels, List.mem_filter, and_iff_right l.mem_all, needsLevel_eq_true_iff]

theorem mem_levels_of_ungated (h : l.gatingKey? = none) : l ∈ levels ctx forced := by
  rw [mem_levels_iff, h]
  exact nofun

theorem pairwise_number_levels (ctx : Context) (forced : List Level) :
    (levels ctx forced).Pairwise fun l l' => l.number < l'.number := by
  have hall : Level.all.Pairwise fun l l' => l.number < l'.number := by decide
  exact hall.sublist List.filter_sublist

/-- The selection depends on which levels are forced, and on nothing else about them. -/
theorem levels_congr (h : ∀ l, l ∈ forced ↔ l ∈ more) : levels ctx forced = levels ctx more := by
  apply List.filter_congr
  intro l hl
  rw [Bool.eq_iff_iff, needsLevel_eq_true_iff, needsLevel_eq_true_iff, h]

/-- Forcing further levels takes none out of the selection. -/
theorem levels_sublist_of_subset (h : forced ⊆ more) :
    (levels ctx forced).Sublist (levels ctx more) := by
  apply List.monotone_filter_right
  intro l hl
  rw [needsLevel_eq_true_iff] at hl ⊢
  intro key hkey
  exact (hl key hkey).imp_right fun hforced => h hforced

end WorkspaceTemplates.Selection

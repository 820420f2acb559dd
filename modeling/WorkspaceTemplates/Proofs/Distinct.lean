/-
  WorkspaceTemplates/Proofs/Distinct.lean
  =======================================
  **Each element once.**

  `eraseDups` goes through a list and notes an element the first time it meets it.
  Everything here follows from what one more element at the end does to the list that
  was noted (`eraseDups_concat`): the list has no repetitions, and its elements stand
  in the order of their first places in the list that was gone through.
-/
import Mathlib.Data.List.Basic
import Mathlib.Data.List.Induction

namespace WorkspaceTemplates

variable {α : Type} [BEq α] [LawfulBEq α]

/-- A new element is noted at the end; one that is there already is not noted again. -/
theorem eraseDups_concat (l : List α) (a : α) :
    (l ++ [a]).eraseDups = if l.contains a then l.eraseDups else l.eraseDups ++ [a] := by
  have hsingle : [a].eraseDups = [a] := by
    rw [List.eraseDups_cons, List.filter_nil, List.eraseDups_nil]
  rw [List.eraseDups_append, List.removeAll, List.filter_cons, List.elem_eq_contains]
  cases l.contains a with
  | true => simp
  | false => simp [hsingle]

theorem nodup_eraseDups (l : List α) : l.eraseDups.Nodup := by
  induction l using List.reverseRecOn with
  | nil => exact List.nodup_nil
  | append_singleton l a ih =>
    rw [eraseDups_concat]
    split
    · exact ih
    · rename_i hnew
      rw [List.nodup_append]
      refine ⟨ih, List.pairwise_singleton _ a, ?_⟩
      rintro b hb c hc rfl
      rw [List.mem_singleton.1 hc, List.mem_eraseDups] at hb
      exact hnew (List.contains_iff_mem.2 hb)

/-- Elements are noted in the order in which they appear first. -/
theorem pairwise_idxOf_eraseDups (l : List α) :
    l.eraseDups.Pairwise fun a b => l.idxOf a < l.idxOf b := by
  induction l using List.reverseRecOn with
  | nil => exact List.Pairwise.nil
  | append_singleton l a ih =>
    have hold (b : α) (hb : b ∈ l.eraseDups) : (l ++ [a]).idxOf b = l.idxOf b :=
      List.idxOf_append_of_mem (List.mem_eraseDups.1 hb)
    have hsame : l.eraseDups.Pairwise fun b c => (l ++ [a]).idxOf b < (l ++ [a]).idxOf c := by
      refine ih.imp_of_mem ?_
      intro b c hb hc hlt
      rwa [hold b hb, hold c hc]
    rw [eraseDups_concat]
    split
    · exact hsame
    · rename_i hnew
      rw [List.contains_iff_mem] at hnew
      rw [List.pairwise_append]
      refine ⟨hsame, List.pairwise_singleton _ a, ?_⟩
      intro b hb c hc
      obtain rfl := List.mem_singleton.1 hc
      rw [hold b hb, List.idxOf_append_of_notMem hnew]
      exact Nat.lt_of_lt_of_le (List.idxOf_lt_length_of_mem (List.mem_eraseDups.1 hb))
        (Nat.le_add_right _ _)

theorem eraseDups_of_nodup {l : List α} (h : l.Nodup) : l.eraseDups = l := by
  induction l using List.reverseRecOn with
  | nil => rfl
  | append_singleton l a ih =>
    obtain ⟨hl, -, hnew⟩ := List.nodup_append.1 h
    rw [eraseDups_concat, ih hl, if_neg]
    rw [List.contains_iff_mem]
    exact fun ha => hnew a ha a (List.mem_singleton_self a) rfl

/-! ### Elements with a property -/

/-- Of the elements with a property, a new one is noted at the end. -/
theorem filter_eraseDups_concat (p : α → Bool) (l : List α) (a : α) :
    (l ++ [a]).eraseDups.filter p =
      if p a && !l.contains a then l.eraseDups.filter p ++ [a] else l.eraseDups.filter p := by
  rw [eraseDups_concat]
  cases l.contains a <;> cases ha : p a <;> simp [List.filter_append, ha]

theorem contains_filter_eraseDups (p : α → Bool) (l : List α) (a : α) :
    (l.eraseDups.filter p).contains a = (p a && l.contains a) := by
  rw [Bool.eq_iff_iff]
  simp [and_comm]

theorem filter_eraseDups (p : α → Bool) (l : List α) :
    (l.filter p).eraseDups = l.eraseDups.filter p := by
  induction l using List.reverseRecOn with
  | nil => rfl
  | append_singleton l a ih =>
    rw [filter_eraseDups_concat, List.filter_append]
    by_cases ha : p a = true
    · rw [List.filter_cons_of_pos ha, List.filter_nil, eraseDups_concat, ih, ha]
      simp [ha]
    · simp [ha, ih]

/-- Of the elements with a property, those of the second list are noted that are new. -/
theorem filter_eraseDups_append (p : α → Bool) (l l' : List α) :
    (l ++ l').eraseDups.filter p =
      l.eraseDups.filter p ++
        (l'.eraseDups.filter p).filter fun a => !(l.eraseDups.filter p).contains a := by
  rw [List.eraseDups_append, List.removeAll, filter_eraseDups, List.filter_append,
    List.filter_filter, List.filter_filter]
  congr 1
  apply List.filter_congr
  intro a ha
  rw [contains_filter_eraseDups, List.elem_eq_contains]
  cases p a <;> simp

end WorkspaceTemplates

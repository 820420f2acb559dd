/-
  WorkspaceTemplates/Proofs/Text/Trim.lean
  ========================================
  **Trimming.**

  Trimming takes the blanks off both ends of a text.  A trimmed text is one that
  trimming leaves alone (`trim_trim`), and blanks that are put behind a text make no
  difference (`trim_append`).
-/
import WorkspaceTemplates.Text.Blank
import Mathlib.Data.List.DropRight

namespace WorkspaceTemplates.Text

theorem dropBlankEnd_eq (s : List Char) : dropBlankEnd s = s.rdropWhile isBlank := rfl

theorem toList_trim (s : String) :
    (trim s).toList = (s.toList.dropWhile isBlank).rdropWhile isBlank := by
  rw [trim, String.toList_ofList, dropBlankEnd_eq]

theorem dropBlankEnd_append {s b : List Char} (hb : ∀ c ∈ b, isBlank c = true) :
    dropBlankEnd (s ++ b) = dropBlankEnd s := by
  have hrev : ∀ c ∈ b.reverse, isBlank c = true := fun c hc => hb c (List.mem_reverse.1 hc)
  rw [dropBlankEnd, dropBlankEnd, List.reverse_append, List.dropWhile_append_of_pos hrev]

/-- Blanks at the end of a text are trimmed away. -/
theorem trim_append {s b : List Char} (hb : ∀ c ∈ b, isBlank c = true) :
    trim (String.ofList (s ++ b)) = trim (String.ofList s) := by
  rw [trim, trim, String.toList_ofList, String.toList_ofList, List.dropWhile_append]
  split
  · rename_i hs
    rw [List.isEmpty_iff.1 hs, List.dropWhile_eq_nil_iff.2 hb]
  · rw [dropBlankEnd_append hb]

/-- Trimming a trimmed text changes nothing. -/
theorem trim_trim (s : String) : trim (trim s) = trim s := by
  apply String.toList_inj.1
  rw [toList_trim, toList_trim]
  -- what is left starts like the text without its first blanks
  have hstart : ((s.toList.dropWhile isBlank).rdropWhile isBlank).dropWhile isBlank =
      (s.toList.dropWhile isBlank).rdropWhile isBlank := by
    obtain ⟨r, hr⟩ := List.rdropWhile_prefix isBlank (s.toList.dropWhile isBlank)
    cases hleft : (s.toList.dropWhile isBlank).rdropWhile isBlank with
    | nil => rfl
    | cons c rest =>
      rw [hleft] at hr
      have hc : ¬ isBlank c = true := by
        have hhead := List.head?_dropWhile_not isBlank s.toList
        rw [← hr] at hhead
        simpa using hhead
      exact List.dropWhile_cons_of_neg hc
  rw [hstart, List.rdropWhile_idempotent]

theorem mem_of_mem_trim {s : String} {c : Char} (h : c ∈ (trim s).toList) : c ∈ s.toList := by
  rw [toList_trim] at h
  exact (List.dropWhile_suffix isBlank).subset ((List.rdropWhile_prefix isBlank _).subset h)

end WorkspaceTemplates.Text

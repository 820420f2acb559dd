/-
  WorkspaceTemplates/Proofs/Lookup.lean
  =====================================
  **Keys that are found under another spelling.**

  A name in camel case finds a key in snake case by way of its words, and a name in
  capitals finds a key in camel case by way of its segments.  The second way is always
  open; the first one is closed to keys in which single letters stand side by side, as
  their capitals become one word.  An alias or a key that is spelled like the name in
  lower case comes first on both ways.
-/
import WorkspaceTemplates.Lookup
import WorkspaceTemplates.Proofs.Words

namespace WorkspaceTemplates

open Words

/-! ### Names of a key in snake case -/

namespace Words.SnakeKey

open Segment

/-- The name of a key in capitals. -/
def upper (k : SnakeKey) : String := String.ofList (k.text.toList.flatMap Text.upperChar)

variable (k : SnakeKey)

theorem isLower_or_of_mem_text : ∀ c ∈ k.text.toList, c.isLower = true ∨ c = '_' := by
  intro c hc
  rw [text, String.toList_ofList] at hc
  rcases Text.mem_intercalate hc with hc | ⟨w, hw, hc⟩
  · exact .inr (List.mem_singleton.1 hc)
  · obtain ⟨s, -, rfl⟩ := List.mem_map.1 hw
    exact .inl (s.isLower c hc)

theorem isCompound_text (h : k.others ≠ []) : Lookup.isCompound k.text = true := by
  obtain ⟨s, ss, hothers⟩ := List.exists_cons_of_ne_nil h
  rw [Lookup.isCompound, text, String.toList_ofList, segments, hothers, List.map_cons,
    List.map_cons, List.intercalate_cons_cons]
  simp

theorem lower_upper : Text.lower k.upper = k.text := by
  have hchar : ∀ c ∈ k.text.toList, Text.upperChar c = [c.toUpper] ∧
      c.toUpper.toNat < 0x80 ∧ c.toUpper.toLower = c := by
    intro c hc
    rcases k.isLower_or_of_mem_text c hc with hc | rfl
    · exact ⟨Text.upperChar_of_ascii (Text.toNat_lt_of_isLower hc),
        Text.toNat_lt_of_isUpper (Text.isUpper_toUpper_of_isLower hc),
        Text.toLower_toUpper_of_isLower hc⟩
    · decide
  have hupper : k.text.toList.flatMap Text.upperChar = k.text.toList.map Char.toUpper := by
    rw [List.map_eq_flatMap, List.flatMap_congr fun c hc => (hchar c hc).1]
  have hascii : Text.IsAscii (k.text.toList.map Char.toUpper) := by
    intro d hd
    obtain ⟨c, hc, rfl⟩ := List.mem_map.1 hd
    exact (hchar c hc).2.1
  have hback : (k.text.toList.map Char.toUpper).map Char.toLower = k.text.toList := by
    rw [List.map_map]
    exact (List.map_congr_left fun c hc => (hchar c hc).2.2).trans (List.map_id' _)
  rw [upper, hupper, Text.lower_ofList_of_isAscii hascii, hback, String.ofList_toList]

/-- The name in camel case has no underscore, nor does it get one when it is lowered. -/
theorem isCompound_lower_camelCase : Lookup.isCompound (Text.lower (camelCase k.text)) = false := by
  have hascii : Text.IsAscii (k.first.letters ++ k.others.flatMap raised) := by
    intro c hc
    rcases List.mem_append.1 hc with hc | hc
    · exact Text.isAscii_of_isLower k.first.isLower c hc
    · obtain ⟨s, -, hc⟩ := List.mem_flatMap.1 hc
      exact s.isAscii_raised c hc
  rw [camelCase_text, Text.lower_ofList_of_isAscii hascii, Lookup.isCompound, String.toList_ofList,
    List.map_append, List.map_flatMap, map_toLower_letters]
  simp only [map_toLower_raised]
  have hfirst : '_' ∉ k.first.letters := k.not_mem_segments _ List.mem_cons_self
  simpa using ⟨hfirst, by simpa using not_mem_flatMap_letters k.others⟩

end Words.SnakeKey

/-! ### Looking a key up -/

namespace Lookup

variable {aliases : Aliases} {name : String} {ctx : Context}

/-- What comes before the first candidate that the context has does not matter. -/
theorem key?_of_candidates {before after : List String} {key : String}
    (h : candidates aliases name = before ++ key :: after)
    (hbefore : ∀ k ∈ before, ctx.contains k = false) (hkey : ctx.contains key = true) :
    key? aliases name ctx = some key := by
  have hnone : before.find? ctx.contains = none := by
    rw [List.find?_eq_none]
    intro k hk
    rw [hbefore k hk]
    exact Bool.false_ne_true
  rw [key?, h, List.find?_append, hnone, Option.none_or, List.find?_cons_of_pos hkey]

theorem key?_of_not_isCompound (hname : isCompound (Text.lower name) = false)
    (halias : ∀ key ∈ aliases.get? name, ctx.contains key = false)
    (hlower : ctx.contains (Text.lower name) = false)
    (hkey : ctx.contains (snakeCase name) = true) :
    key? aliases name ctx = some (snakeCase name) := by
  have hcandidates : candidates aliases name =
      ((aliases.get? name).toList ++ [Text.lower name]) ++ snakeCase name ::
        (if isCompound (snakeCase name) then [camelCase (snakeCase name)] else []) := by
    simp [candidates, hname]
  refine key?_of_candidates hcandidates ?_ hkey
  simpa [or_imp, forall_and] using ⟨halias, hlower⟩

theorem key?_of_isCompound {key : String} (hname : Text.lower name = key)
    (hcompound : isCompound key = true)
    (halias : ∀ k ∈ aliases.get? name, ctx.contains k = false)
    (hplain : ctx.contains key = false) (hcamel : ctx.contains (camelCase key) = true) :
    key? aliases name ctx = some (camelCase key) := by
  have hcandidates : candidates aliases name =
      ((aliases.get? name).toList ++ [key]) ++ camelCase key :: [] := by
    simp [candidates, hname, hcompound]
  refine key?_of_candidates hcandidates ?_ hcamel
  simpa [or_imp, forall_and] using ⟨halias, hplain⟩

/-- **Keys in snake case and names in camel case find each other exactly when the segments are
separable.**  The words of the camel-case name, lowered and joined, are the key just when no two
segments after the first that stand side by side are single letters; such a key is found under that
name.  Whatever its segments are, a key in camel case is found under the name in capitals. -/
theorem key?_snake_camel (aliases : Aliases) (k : SnakeKey) :
    ("_".intercalate ((split (camelCase k.text)).map Text.lower) = k.text ↔ k.Separable) ∧
      (k.Separable → ∀ ctx : Context, ctx.contains k.text = true →
        (∀ key ∈ aliases.get? (camelCase k.text), ctx.contains key = false) →
        ctx.contains (Text.lower (camelCase k.text)) = false →
        key? aliases (camelCase k.text) ctx = some k.text) ∧
      (k.others ≠ [] → ∀ ctx : Context, ctx.contains (camelCase k.text) = true →
        ctx.contains k.text = false →
        (∀ key ∈ aliases.get? k.upper, ctx.contains key = false) →
        key? aliases k.upper ctx = some (camelCase k.text)) := by
  refine ⟨k.intercalate_lower_split_eq_iff, ?_, ?_⟩
  · intro hseparable ctx hkey halias hlower
    have hback : snakeCase (camelCase k.text) = k.text := by
      rw [snakeCase_eq]
      exact k.intercalate_lower_split_eq_iff.2 hseparable
    rw [← hback] at hkey
    rw [key?_of_not_isCompound k.isCompound_lower_camelCase halias hlower hkey, hback]
  · intro hothers ctx hkey hplain halias
    exact key?_of_isCompound k.lower_upper (k.isCompound_text hothers) halias hplain hkey

/-- The single letters of this key become one word, which is not a key. -/
example : snakeCase (camelCase "a_b_c") = "a_bc" := by decide +kernel

/-- A key with a single letter in it, under names with aliases that the contexts do not have. -/
theorem key?_snake_camel_version :
    let k : SnakeKey := ⟨⟨['a', 'p', 'i'], by simp, by simp⟩, [⟨['v'], by simp, by simp⟩,
      ⟨['n', 'o'], by simp, by simp⟩]⟩
    let aliases : Aliases := [("apiVNo", "version"), ("API_V_NO", "number")]
    let snake : Context := Dictionary.ofList [("api_v_no", .int 2)]
    let camel : Context := Dictionary.ofList [("apiVNo", .int 2)]
    k.text = "api_v_no" ∧ camelCase k.text = "apiVNo" ∧ k.upper = "API_V_NO" ∧ k.Separable ∧
      k.others ≠ [] ∧ snake.contains k.text = true ∧
      (∀ key ∈ aliases.get? (camelCase k.text), snake.contains key = false) ∧
      snake.contains (Text.lower (camelCase k.text)) = false ∧
      key? aliases (camelCase k.text) snake = some k.text ∧
      camel.contains (camelCase k.text) = true ∧ camel.contains k.text = false ∧
      (∀ key ∈ aliases.get? k.upper, camel.contains key = false) ∧
      key? aliases k.upper camel = some (camelCase k.text) := by
  intro k aliases snake camel
  obtain ⟨-, hsnake, hcamel⟩ := key?_snake_camel aliases k
  have hseparable : k.Separable := by decide +kernel
  have hothers : k.others ≠ [] := by decide
  have hkey : snake.contains k.text = true := by decide +kernel
  have halias : ∀ key ∈ aliases.get? (camelCase k.text), snake.contains key = false := by
    decide +kernel
  have hlower : snake.contains (Text.lower (camelCase k.text)) = false := by decide +kernel
  have hkey' : camel.contains (camelCase k.text) = true := by decide +kernel
  have hplain : camel.contains k.text = false := by decide +kernel
  have halias' : ∀ key ∈ aliases.get? k.upper, camel.contains key = false := by decide +kernel
  exact ⟨by decide +kernel, by decide +kernel, by decide +kernel, hseparable, hothers, hkey,
    halias, hlower, hsnake hseparable snake hkey halias hlower, hkey', hplain, halias',
    hcamel hothers camel hkey' hplain halias'⟩

end Lookup

end WorkspaceTemplates

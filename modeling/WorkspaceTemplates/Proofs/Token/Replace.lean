/-
  WorkspaceTemplates/Proofs/Token/Replace.lean
  ============================================
  **Replacing tokens.**

  Every pass of rendering makes replacements of one kind: a stretch of text that
  starts with a token gives way to a text without `<`.  A `Replacement` is one of
  these, at a token whose name is one of some, and `Replacements` any number of them.
  They keep a text spaced and make no token, in whatever order they come, as long as
  those tokens are spaced.  `replaceAll` makes replacements for any tag
  (`replacements_replaceAll`), and without a tag it leaves no token behind
  (`not_occurs_replaceAll`).
-/
import WorkspaceTemplates.Proofs.Token.Seam
import Mathlib.Logic.Relation

namespace WorkspaceTemplates.Token

/-! ### Replacements -/

/-- A stretch of text that starts with a token gives way to a text without `<`.  The name of the
token is one of some. -/
inductive Replacement (P : List Char → Prop) : List Char → List Char → Prop where
  | intro (p : List Char) {name text : List Char} (ht : Spells name text) (hP : P name)
      (x : List Char) {v : List Char} (hv : '<' ∉ v) (q : List Char) :
      Replacement P (p ++ (text ++ x ++ q)) (p ++ (v ++ q))

/-- Any number of replacements. -/
abbrev Replacements (P : List Char → Prop) : List Char → List Char → Prop :=
  Relation.ReflTransGen (Replacement P)

section Replacements

variable {P : List Char → Prop}

theorem Replacement.mono {Q : List Char → Prop} (hPQ : ∀ name, P name → Q name)
    {s t : List Char} (h : Replacement P s t) : Replacement Q s t := by
  obtain ⟨p, ht, hP, x, hv, q⟩ := h
  exact .intro p ht (hPQ _ hP) x hv q

theorem Replacements.mono {Q : List Char → Prop} (hPQ : ∀ name, P name → Q name)
    {s t : List Char} (h : Replacements P s t) : Replacements Q s t :=
  Relation.ReflTransGen.mono (fun _ _ hst => hst.mono hPQ) _ _ h

theorem Replacement.not_openEnd {p name text x q : List Char} (ht : Spells name text)
    (hP : P name) (h : SpacedBy P (p ++ (text ++ x ++ q))) : ¬ OpenEnd p := by
  rw [List.append_assoc text x q] at h
  exact h.not_openEnd ht hP

theorem SpacedBy.of_replacement {s t : List Char} (h : SpacedBy P s) (hst : Replacement P s t) :
    SpacedBy P t := by
  obtain ⟨p, ht, hP, x, hv, q⟩ := hst
  exact h.replace (Replacement.not_openEnd ht hP h) hv

theorem Occurs.of_spacedBy_replacement {s t name : List Char} (hs : SpacedBy P s)
    (hst : Replacement P s t) (h : Occurs name t) : Occurs name s := by
  obtain ⟨p, ht, hP, x, hv, q⟩ := hst
  exact h.of_replace (Replacement.not_openEnd ht hP hs) hv

/-- Replacements at tokens that are spaced keep them so. -/
theorem SpacedBy.of_replacements {s t : List Char} (h : SpacedBy P s)
    (hst : Replacements P s t) : SpacedBy P t := by
  induction hst with
  | refl => exact h
  | tail _ hstep ih => exact ih.of_replacement hstep

/-- Replacements at tokens that are spaced make no token. -/
theorem Occurs.of_spacedBy_replacements {s t name : List Char} (hs : SpacedBy P s)
    (hst : Replacements P s t) (h : Occurs name t) : Occurs name s := by
  induction hst with
  | refl => exact h
  | tail hsteps hstep ih =>
    exact ih (h.of_spacedBy_replacement (hs.of_replacements hsteps) hstep)

/-- Replacements keep a text spaced. -/
theorem Spaced.of_replacements {s t : List Char} (h : Spaced s) (hst : Replacements P s t) :
    Spaced t :=
  spaced_iff_spacedBy.2
    ((spaced_iff_spacedBy.1 h).of_replacements (hst.mono fun _ _ => trivial))

/-- Replacements in a spaced text make no token. -/
theorem Occurs.of_replacements {s t name : List Char} (hs : Spaced s) (hst : Replacements P s t)
    (h : Occurs name t) : Occurs name s :=
  h.of_spacedBy_replacements (spaced_iff_spacedBy.1 hs) (hst.mono fun _ _ => trivial)

theorem Replacements.append_left {s t : List Char} (h : Replacements P s t) (p : List Char) :
    Replacements P (p ++ s) (p ++ t) := by
  induction h with
  | refl => exact .refl
  | tail _ hstep ih =>
    refine ih.tail ?_
    obtain ⟨p', ht, hP, x, hv, q⟩ := hstep
    rw [← List.append_assoc, ← List.append_assoc p p']
    exact .intro (p ++ p') ht hP x hv q

theorem Replacements.head {name text x v s t : List Char} (ht : Spells name text) (hP : P name)
    (hv : '<' ∉ v) (h : Replacements P s t) : Replacements P (text ++ x ++ s) (v ++ t) :=
  Relation.ReflTransGen.head (Replacement.intro [] ht hP x hv s) (h.append_left v)

end Replacements

/-! ### Replacing every token -/

section ReplaceAll

variable {tag : List Char} {f : List Char → List Char}

theorem replaceAll_of_matchAt? {c : Char} {s name after : List Char}
    (h : matchAt? tag (c :: s) = some (name, after)) :
    replaceAll tag f (c :: s) = f name ++ replaceAll tag f after := by
  rw [replaceAll]
  split
  · rename_i hm
    rw [h] at hm
    cases hm
    rfl
  · rename_i hm
    rw [h] at hm
    cases hm

theorem replaceAll_of_matchAt?_eq_none {c : Char} {s : List Char}
    (h : matchAt? tag (c :: s) = none) : replaceAll tag f (c :: s) = c :: replaceAll tag f s := by
  rw [replaceAll]
  split
  · rename_i hm
    rw [h] at hm
    cases hm
  · rfl

/-- Text in which no token starts is kept. -/
theorem replaceAll_append_of_free {u s : List Char} (h : FreeOf tag u s) :
    replaceAll tag f (u ++ s) = u ++ replaceAll tag f s := by
  induction u with
  | nil => rfl
  | cons c u ih =>
    obtain ⟨hhead, hrest⟩ := freeOf_cons_iff.1 h
    rw [List.cons_append, replaceAll_of_matchAt?_eq_none hhead, ih hrest, List.cons_append]

/-- Replacing every token with a tag makes replacements, when no new text has a `<`. -/
theorem replacements_replaceAll {P : List Char → Prop} (htag : ∀ c ∈ tag, isNameChar c = true)
    (hP : ∀ name, name ≠ [] → P (tag ++ name)) (s : List Char)
    (hf : ∀ name, Occurs (tag ++ name) s → '<' ∉ f name) :
    Replacements P s (replaceAll tag f s) := by
  fun_induction replaceAll tag f s with
  | case1 => exact .refl
  | case2 c rest name after hm ih =>
    obtain ⟨hne, text, ht, hs⟩ := (matchAt?_eq_some_iff htag).1 hm
    have hname : Occurs (tag ++ name) (c :: rest) := by
      rw [hs]
      exact ⟨text, ht, (List.prefix_append text after).isInfix⟩
    have hafter : after <:+: c :: rest := by
      rw [hs]
      exact (List.suffix_append text after).isInfix
    have hrest := ih fun n hn => hf n (hn.mono hafter)
    have hstep := hrest.head (x := []) ht (hP name hne) (hf name hname)
    rw [List.append_nil, ← hs] at hstep
    exact hstep
  | case3 c rest _ ih =>
    have hrest := ih fun n hn => hf n (hn.mono (List.suffix_cons c rest).isInfix)
    exact hrest.append_left [c]

/-- **No token is left.**  `p` is what has been written already: no token of the text starts in
    it, and this is what each replacement keeps. -/
theorem not_occurs_append_replaceAll (s : List Char) :
    ∀ {p : List Char}, Spaced (p ++ s) → (∀ name, Occurs name s → '<' ∉ f name) →
      FreeOf [] p s →
      ∀ name, ¬ Occurs name (p ++ replaceAll [] f s) := by
  fun_induction replaceAll [] f s with
  | case1 =>
    intro p _ _ hp name
    rw [List.append_nil]
    exact hp.not_occurs
  | case2 c rest name after hm ih =>
    intro p hs hf hp n
    obtain ⟨text, ht, heq⟩ := matchAt?_nil_eq_some_iff.1 hm
    rw [heq] at hs hf hp
    have hopen : ¬ OpenEnd p := hs.not_openEnd ht
    have hv : '<' ∉ f name := hf name ⟨text, ht, (List.prefix_append text after).isInfix⟩
    rw [← List.append_assoc]
    refine ih ?_ ?_ ?_ n
    · rw [List.append_assoc]
      exact hs.replace hopen hv
    · exact fun m hm => hf m (hm.mono (List.suffix_append text after).isInfix)
    · -- a token that starts in `p` or in the new text would have been there before
      intro w hw hne
      by_contra hsome
      have hsome : (matchAt? [] (w ++ after)).isSome := Option.isSome_iff_ne_none.2 hsome
      have hhead : '<' ∈ w := by
        obtain ⟨r, hr⟩ := Option.isSome_iff_exists.1 hsome
        obtain ⟨d, w, rfl⟩ := List.exists_cons_of_ne_nil hne
        rw [Option.some.inj (head?_of_matchAt? hr)]
        exact List.mem_cons_self
      obtain ⟨z, hz⟩ := hw
      rcases List.append_eq_append_iff.1 hz with ⟨y, rfl, rfl⟩ | ⟨y, rfl, hy⟩
      · have hy : y ≠ [] := by
          rintro rfl
          exact hv (by simpa using hhead)
        have hun := not_unfinished_of_not_openEnd hopen (List.suffix_append z y)
        rw [List.append_assoc] at hsome
        have hold := matchAt?_isSome_append hy hun _ (text ++ after) hsome
        rw [hp y (List.suffix_append z y) hy] at hold
        cases hold
      · exact hv (hy ▸ List.mem_append_right y hhead)
  | case3 c rest hm ih =>
    intro p hs hf hp n
    rw [List.append_cons]
    refine ih (by simpa using hs) ?_ ?_ n
    · exact fun m hm => hf m (hm.mono (List.suffix_cons c rest).isInfix)
    · intro w hw hne
      rcases List.suffix_concat_iff.1 hw with rfl | ⟨z, rfl, hz⟩
      · exact absurd rfl hne
      · rw [List.append_assoc]
        by_cases hznil : z = []
        · subst hznil
          exact hm
        · exact hp z hz hznil

/-- Replacing every token of a spaced text by texts without `<` leaves no token. -/
theorem not_occurs_replaceAll {s : List Char} (hs : Spaced s)
    (hf : ∀ name, Occurs name s → '<' ∉ f name) (name : List Char) :
    ¬ Occurs name (replaceAll [] f s) :=
  not_occurs_append_replaceAll s (p := []) hs hf (FreeOf.nil [] s) name

end ReplaceAll

end WorkspaceTemplates.Token

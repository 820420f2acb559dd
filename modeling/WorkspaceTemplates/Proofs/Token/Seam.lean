/-
  WorkspaceTemplates/Proofs/Token/Seam.lean
  =========================================
  **Where texts may be cut and joined without making or breaking a token.**

  A cut can glue a token together: `<PLACEHOLDER: A` and `B>` are no tokens, their
  concatenation is one.  The front part of such a token is `Unfinished`, a text that
  ends in one has an `OpenEnd`, and a text is `Spaced` when none of its tokens
  follows an open end; `SpacedBy` says so of the tokens with some names only.  At a
  place without an open end nothing is glued: reading a token there does not look
  beyond it (`matchAt?_append_iff`).  The main result is `SpacedBy.replace`: where
  nothing is open, a stretch of text may be replaced by any text without `<`, and
  the result is spaced again.
-/
import WorkspaceTemplates.Proofs.Token.Shape

namespace WorkspaceTemplates.Token

/-! ### Unfinished tokens -/

/-- A token that breaks off: a non-empty proper prefix of a token. -/
def Unfinished (u : List Char) : Prop :=
  u ≠ [] ∧ ∃ name text, Spells name text ∧ u <+: text ∧ u ≠ text

theorem Unfinished.of_prefix {u v : List Char} (h : Unfinished u) (hv : v <+: u)
    (hne : v ≠ []) : Unfinished v := by
  obtain ⟨-, name, text, ht, hu, hut⟩ := h
  refine ⟨hne, name, text, ht, hv.trans hu, ?_⟩
  rintro rfl
  exact hut (hu.eq_of_length (Nat.le_antisymm hu.length_le hv.length_le))

theorem Unfinished.head? {u : List Char} (h : Unfinished u) : u.head? = some '<' := by
  obtain ⟨hne, name, text, ht, ⟨w, rfl⟩, -⟩ := h
  obtain ⟨c, cs, rfl⟩ := List.exists_cons_of_ne_nil hne
  obtain ⟨tail, htail, -⟩ := ht.exists_cons
  exact congrArg some (List.cons.inj htail).1

/-- An unfinished token is the start of the opener, or the opener, blanks and name characters. -/
def isUnfinished (u : List Char) : Bool :=
  match opener.isPrefixOf? u with
  | some r => (r.dropWhile Text.isBlank).all isNameChar
  | none => !u.isEmpty && u.isPrefixOf opener

/-- What follows the opener in an unfinished token is blanks and then name characters. -/
theorem all_isNameChar_of_prefix {r blanks name : List Char}
    (hblanks : ∀ c ∈ blanks, Text.isBlank c = true) (hname : ∀ c ∈ name, isNameChar c = true)
    (hr : r <+: blanks ++ name) : (r.dropWhile Text.isBlank).all isNameChar = true := by
  obtain ⟨w, hw⟩ := hr
  rcases List.append_eq_append_iff.1 hw with ⟨z, rfl, -⟩ | ⟨n, rfl, rfl⟩
  · have hall : ∀ c ∈ r, Text.isBlank c = true := fun c hc => hblanks c (List.mem_append_left z hc)
    rw [List.dropWhile_eq_nil_iff.2 hall]
    rfl
  · rw [List.dropWhile_append_of_pos hblanks, List.all_eq_true]
    intro c hc
    exact hname c (List.mem_append_left w ((List.dropWhile_suffix _).subset hc))

theorem unfinished_iff {u : List Char} : Unfinished u ↔ isUnfinished u = true := by
  unfold isUnfinished
  constructor
  · rintro ⟨hne, name, text, ht, hu, hut⟩
    obtain ⟨-, hname, blanks, hblanks, rfl⟩ := ht
    cases hp : opener.isPrefixOf? u with
    | some r =>
      obtain rfl := isPrefixOf?_eq_some_iff.1 hp
      have hr := (List.prefix_append_right_inj opener).1 hu
      -- the closing is no part of what breaks off
      rw [← List.append_assoc, List.prefix_concat_iff] at hr
      rcases hr with rfl | hr
      · exact absurd (by simp) hut
      · exact all_isNameChar_of_prefix hblanks hname hr
    | none =>
      rcases List.prefix_or_prefix_of_prefix hu (List.prefix_append opener _) with hu | ⟨r, rfl⟩
      · simp [hne, hu]
      · rw [isPrefixOf?_eq_some_iff.2 rfl] at hp
        cases hp
  · intro h
    cases hp : opener.isPrefixOf? u with
    | some r =>
      rw [hp] at h
      obtain rfl := isPrefixOf?_eq_some_iff.1 hp
      -- one more name character and the closing make it a token
      let blanks := r.takeWhile Text.isBlank
      let name := r.dropWhile Text.isBlank ++ ['A']
      have hname : ∀ c ∈ name, isNameChar c = true := by
        intro c hc
        rcases List.mem_append.1 hc with hc | hc
        · exact List.all_eq_true.1 h c hc
        · rw [List.mem_singleton.1 hc]
          decide
      have htext : opener ++ r ++ ['A', '>'] = opener ++ (blanks ++ (name ++ ['>'])) := by
        have hr : blanks ++ r.dropWhile Text.isBlank = r := List.takeWhile_append_dropWhile
        calc opener ++ r ++ ['A', '>']
            = opener ++ (blanks ++ r.dropWhile Text.isBlank) ++ ['A', '>'] := by rw [hr]
          _ = _ := by simp [name]
      have ht : Spells name (opener ++ r ++ ['A', '>']) :=
        ⟨by simp [name], hname, blanks, fun c hc => List.mem_takeWhile_imp hc, htext⟩
      refine ⟨List.append_ne_nil_of_left_ne_nil (by decide) r, name, _, ht,
        List.prefix_append _ _, ?_⟩
      intro he
      exact absurd (List.self_eq_append_right.1 he) (by simp)
    | none =>
      rw [hp] at h
      simp only [Bool.and_eq_true, Bool.not_eq_true', List.isEmpty_eq_false_iff,
        List.isPrefixOf_iff_prefix] at h
      have ht : Spells ['A'] (opener ++ ['A', '>']) :=
        ⟨by simp, List.all_eq_true.1 (by decide), [], by simp, rfl⟩
      refine ⟨h.1, ['A'], _, ht, h.2.trans (List.prefix_append _ _), ?_⟩
      rintro rfl
      exact absurd h.2.length_le (by decide)

instance (u : List Char) : Decidable (Unfinished u) :=
  decidable_of_iff (isUnfinished u = true) unfinished_iff.symm

/-! ### Open ends -/

/-- The text ends in an unfinished token. -/
def OpenEnd (s : List Char) : Prop := ∃ u, u <:+ s ∧ Unfinished u

instance (s : List Char) : Decidable (OpenEnd s) :=
  decidable_of_iff (∃ u ∈ s.tails, Unfinished u) (by simp only [List.mem_tails, OpenEnd])

theorem not_unfinished_of_not_openEnd {s u : List Char} (h : ¬ OpenEnd s) (hu : u <:+ s) :
    ¬ Unfinished u :=
  fun hun => h ⟨u, hu, hun⟩

/-- What is unfinished at the end of a joined text is so at the end of a part. -/
theorem openEnd_append {s t : List Char} (h : OpenEnd (s ++ t)) : OpenEnd s ∨ OpenEnd t := by
  obtain ⟨u, hu, hun⟩ := h
  obtain ⟨w, hw⟩ := hu
  rcases List.append_eq_append_iff.1 hw with ⟨v, rfl, rfl⟩ | ⟨v, rfl, rfl⟩
  · by_cases hne : v = []
    · subst hne
      exact .inr ⟨t, List.suffix_refl t, hun⟩
    · exact .inl ⟨v, List.suffix_append w v, hun.of_prefix (List.prefix_append v t) hne⟩
  · exact .inr ⟨u, List.suffix_append v u, hun⟩

theorem OpenEnd.append_left {t : List Char} (h : OpenEnd t) (s : List Char) :
    OpenEnd (s ++ t) := by
  obtain ⟨u, hu, hun⟩ := h
  exact ⟨u, hu.trans (List.suffix_append s t), hun⟩

theorem not_openEnd_of_not_mem {s : List Char} (h : '<' ∉ s) : ¬ OpenEnd s := by
  rintro ⟨u, hu, hun⟩
  exact h (hu.subset (List.mem_of_head? hun.head?))

/-! ### Reading a token looks no further -/

/-- A token read in a joined text is read in its first part, unless that part breaks it off. -/
theorem matchAt?_append_iff {s t name rest : List Char} (hne : s ≠ []) (h : ¬ Unfinished s) :
    matchAt? [] (s ++ t) = some (name, rest) ↔
      ∃ r, matchAt? [] s = some (name, r) ∧ rest = r ++ t := by
  constructor
  · intro hm
    obtain ⟨text, ht, heq⟩ := matchAt?_nil_eq_some_iff.1 hm
    rcases List.append_eq_append_iff.1 heq with ⟨w, rfl, rfl⟩ | ⟨w, rfl, rfl⟩
    · by_cases hw : w = []
      · subst hw
        refine ⟨[], ?_, rfl⟩
        rw [List.append_nil] at ht
        simpa using ht.matchAt?_append []
      · refine absurd ⟨hne, name, s ++ w, ht, List.prefix_append s w, ?_⟩ h
        intro he
        exact hw (List.self_eq_append_right.1 he)
    · exact ⟨w, ht.matchAt?_append w, rfl⟩
  · rintro ⟨r, hm, rfl⟩
    obtain ⟨text, ht, rfl⟩ := matchAt?_nil_eq_some_iff.1 hm
    rw [List.append_assoc]
    exact ht.matchAt?_append (r ++ t)

/-- What a text starts with decides whether a token is read there. -/
theorem matchAt?_isSome_append {s : List Char} (hne : s ≠ []) (h : ¬ Unfinished s)
    (t t' : List Char) :
    (matchAt? [] (s ++ t)).isSome → (matchAt? [] (s ++ t')).isSome := by
  intro hm
  obtain ⟨⟨name, rest⟩, hm⟩ := Option.isSome_iff_exists.1 hm
  obtain ⟨r, hr, -⟩ := (matchAt?_append_iff hne h).1 hm
  exact Option.isSome_iff_exists.2 ⟨(name, r ++ t'), (matchAt?_append_iff hne h).2 ⟨r, hr, rfl⟩⟩

/-! ### Spaced texts -/

/-- No token of the text follows an unfinished one immediately. -/
def Spaced (s : List Char) : Prop :=
  ∀ a b, s = a ++ b → (matchAt? [] b).isSome → ¬ OpenEnd a

instance (s : List Char) : Decidable (Spaced s) :=
  decidable_of_iff
    (∀ i < s.length + 1, (matchAt? [] (s.drop i)).isSome → ¬ OpenEnd (s.take i)) <| by
    constructor
    · rintro h a b rfl hb
      have hi := h a.length (by rw [List.length_append]; omega)
      rw [List.drop_left, List.take_left] at hi
      exact hi hb
    · intro h i _ hb
      exact h _ _ (List.take_append_drop i s).symm hb

/-- No token whose name is one of some follows an unfinished one immediately. -/
def SpacedBy (P : List Char → Prop) (s : List Char) : Prop :=
  ∀ a b name rest, s = a ++ b → matchAt? [] b = some (name, rest) → P name → ¬ OpenEnd a

theorem spaced_iff_spacedBy {s : List Char} : Spaced s ↔ SpacedBy (fun _ => True) s := by
  constructor
  · intro h a b name rest hs hb _
    exact h a b hs (by rw [hb]; rfl)
  · intro h a b hs hb
    obtain ⟨⟨name, rest⟩, hm⟩ := Option.isSome_iff_exists.1 hb
    exact h a b name rest hs hm trivial

instance (P : List Char → Prop) [DecidablePred P] (s : List Char) : Decidable (SpacedBy P s) :=
  decidable_of_iff
    (∀ i < s.length + 1, ∀ m ∈ matchAt? [] (s.drop i), P m.1 → ¬ OpenEnd (s.take i)) <| by
    constructor
    · rintro h a b name rest rfl hb hP
      have hi := h a.length (by rw [List.length_append]; omega)
      rw [List.drop_left, List.take_left] at hi
      exact hi (name, rest) hb hP
    · intro h i _ m hb hP
      exact h _ _ m.1 m.2 (List.take_append_drop i s).symm hb hP

theorem SpacedBy.not_openEnd {P : List Char → Prop} {p name text rest : List Char}
    (h : SpacedBy P (p ++ (text ++ rest))) (ht : Spells name text) (hP : P name) : ¬ OpenEnd p :=
  h p (text ++ rest) name rest rfl (ht.matchAt?_append rest) hP

/-- Nothing is open before a token of a spaced text. -/
theorem Spaced.not_openEnd {p name text rest : List Char} (h : Spaced (p ++ (text ++ rest)))
    (ht : Spells name text) : ¬ OpenEnd p :=
  (spaced_iff_spacedBy.1 h).not_openEnd ht trivial

section Replace

variable {p q v : List Char}

/-- The places at which a token stands after a replacement are in `p` or in `q`. -/
theorem append_cases_of_matchAt? (hv : '<' ∉ v) {a b : List Char}
    (heq : p ++ (v ++ q) = a ++ b) (hb : (matchAt? [] b).isSome) :
    (∃ w, w ≠ [] ∧ p = a ++ w ∧ b = w ++ (v ++ q)) ∨
      ∃ w, a = p ++ (v ++ w) ∧ q = w ++ b := by
  -- a token that starts at or after the end of `p` starts after `v`, which has no `<`
  have later : ∀ w, v ++ q = w ++ b → ∃ z, w = v ++ z ∧ q = z ++ b := by
    intro w hw
    rcases List.append_eq_append_iff.1 hw with ⟨z, rfl, rfl⟩ | ⟨z, rfl, rfl⟩
    · exact ⟨z, rfl, rfl⟩
    · cases z with
      | nil => exact ⟨[], by simp, rfl⟩
      | cons c z =>
        obtain ⟨r, hr⟩ := Option.isSome_iff_exists.1 hb
        have hc : c = '<' := Option.some.inj (head?_of_matchAt? hr)
        exact absurd (List.mem_append_right w (hc ▸ List.mem_cons_self)) hv
  rcases List.append_eq_append_iff.1 heq with ⟨w, rfl, hw⟩ | ⟨w, rfl, hw⟩
  · obtain ⟨z, rfl, rfl⟩ := later w hw
    exact .inr ⟨z, rfl, rfl⟩
  · by_cases hne : w = []
    · subst hne
      obtain ⟨z, hz, rfl⟩ := later [] hw.symm
      exact .inr ⟨z, by rw [← hz]; simp, rfl⟩
    · exact .inl ⟨w, hne, rfl, hw⟩

/-- **Replacing keeps a text spaced.**  Where nothing is open, what stands between `p` and `q`
    may be replaced by a text without `<`. -/
theorem SpacedBy.replace {P : List Char → Prop} {x : List Char}
    (h : SpacedBy P (p ++ (x ++ q))) (hp : ¬ OpenEnd p) (hv : '<' ∉ v) :
    SpacedBy P (p ++ (v ++ q)) := by
  intro a b name rest heq hb hP
  rcases append_cases_of_matchAt? hv heq (by rw [hb]; rfl) with ⟨w, hne, rfl, rfl⟩ | ⟨w, rfl, rfl⟩
  · have hw : ¬ Unfinished w := not_unfinished_of_not_openEnd hp (List.suffix_append a w)
    obtain ⟨r, hr, -⟩ := (matchAt?_append_iff hne hw).1 hb
    exact h a (w ++ (x ++ q)) name (r ++ (x ++ q)) (by simp)
      ((matchAt?_append_iff hne hw).2 ⟨r, hr, rfl⟩) hP
  · have hw : ¬ OpenEnd (p ++ (x ++ w)) := h _ b name rest (by simp) hb hP
    intro ho
    rcases openEnd_append ho with ho | ho
    · exact hp ho
    · rcases openEnd_append ho with ho | ho
      · exact not_openEnd_of_not_mem hv ho
      · exact hw ((ho.append_left x).append_left p)

theorem Spaced.replace {x : List Char} (h : Spaced (p ++ (x ++ q))) (hp : ¬ OpenEnd p)
    (hv : '<' ∉ v) : Spaced (p ++ (v ++ q)) :=
  spaced_iff_spacedBy.2 ((spaced_iff_spacedBy.1 h).replace hp hv)

/-- A replacement makes no token. -/
theorem Occurs.of_replace {x name : List Char} (h : Occurs name (p ++ (v ++ q)))
    (hp : ¬ OpenEnd p) (hv : '<' ∉ v) : Occurs name (p ++ (x ++ q)) := by
  obtain ⟨a, b, rest, heq, hb⟩ := occurs_iff.1 h
  rcases append_cases_of_matchAt? hv heq (by rw [hb]; rfl) with ⟨w, hne, rfl, rfl⟩ | ⟨w, rfl, rfl⟩
  · have hw : ¬ Unfinished w := not_unfinished_of_not_openEnd hp (List.suffix_append a w)
    obtain ⟨r, hr, -⟩ := (matchAt?_append_iff hne hw).1 hb
    exact occurs_iff.2 ⟨a, w ++ (x ++ q), r ++ (x ++ q), by simp,
      (matchAt?_append_iff hne hw).2 ⟨r, hr, rfl⟩⟩
  · exact occurs_iff.2 ⟨p ++ (x ++ w), b, rest, by simp, hb⟩

end Replace

end WorkspaceTemplates.Token

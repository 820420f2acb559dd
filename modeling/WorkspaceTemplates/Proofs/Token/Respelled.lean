/-
  WorkspaceTemplates/Proofs/Token/Respelled.lean
  ==============================================
  **Texts that differ in the case of condition names.**

  `Respelled` relates two texts that are the same but for the letters of condition names
  in their markers, each of which may be small in one text and a capital in the other.
  A reader finds the same tokens in both, at the same places and with the same text
  between them (`Cut.respelled`), since a token that starts at a marker is that marker
  and no other one reaches into it.  Whatever goes from token to token and does not look
  at the letters of conditions makes the same of both.
-/
import WorkspaceTemplates.Proofs.Text.Case
import WorkspaceTemplates.Proofs.Token.Cut

namespace WorkspaceTemplates.Token

/-! ### Spellings of a name -/

/-- Two names have the same letters, small or capital. -/
def SameLetters (name name' : List Char) : Prop :=
  name.map Char.toLower = name'.map Char.toLower

instance (name name' : List Char) : Decidable (SameLetters name name') :=
  inferInstanceAs (Decidable (_ = _))

theorem isNameChar_of_toLower_eq {c d : Char} (h : c.toLower = d.toLower)
    (hc : isNameChar c = true) : isNameChar d = true := by
  have halpha : c.isAlpha = d.isAlpha := by
    rw [← Char.isAlpha_toLower_eq_isAlpha c, h, Char.isAlpha_toLower_eq_isAlpha]
  cases hd : d.isAlpha with
  | true => simp [isNameChar, Char.isAlphanum, hd]
  | false =>
    -- what is no letter stands for itself
    have hself : ∀ e : Char, e.isAlpha = false → e.toLower = e := by
      intro e he
      rw [Char.isAlpha, Bool.or_eq_false_iff] at he
      exact Char.toLower_eq_of_not_isUpper (by simp [he.1])
    rw [hd] at halpha
    rw [hself c halpha, hself d hd] at h
    rwa [← h]

namespace SameLetters

variable {name name' : List Char}

theorem symm (h : SameLetters name name') : SameLetters name' name := Eq.symm h

theorem ne_nil (h : SameLetters name name') (hne : name ≠ []) : name' ≠ [] := by
  rintro rfl
  exact hne (List.map_eq_nil_iff.1 h)

theorem isNameChar (h : SameLetters name name') (hname : ∀ c ∈ name, isNameChar c = true) :
    ∀ c ∈ name', Token.isNameChar c = true := by
  intro d hd
  have hmem : d.toLower ∈ name.map Char.toLower := by
    rw [h]
    exact List.mem_map_of_mem hd
  obtain ⟨c, hc, hlower⟩ := List.mem_map.1 hmem
  exact isNameChar_of_toLower_eq hlower (hname c hc)

end SameLetters

/-! ### Spellings of a marker -/

/-- How the name of a conditional marker starts. -/
def IsTag (tag : List Char) : Prop := tag = ifTag ∨ tag = endifTag

instance (tag : List Char) : Decidable (IsTag tag) := inferInstanceAs (Decidable (_ ∨ _))

theorem IsTag.isNameChar {tag : List Char} (h : IsTag tag) :
    ∀ c ∈ tag, Token.isNameChar c = true := by
  rcases h with rfl | rfl
  · exact ifTag_isNameChar
  · exact endifTag_isNameChar

theorem IsTag.append_inj {tag tag' a b : List Char} (h : IsTag tag) (h' : IsTag tag')
    (heq : tag ++ a = tag' ++ b) : tag = tag' ∧ a = b := by
  rcases h with rfl | rfl <;> rcases h' with rfl | rfl
  · exact ⟨rfl, List.append_cancel_left heq⟩
  · cases (List.cons.inj heq).1
  · cases (List.cons.inj heq).1
  · exact ⟨rfl, List.append_cancel_left heq⟩

/-- The marker of a condition. -/
def marker (tag blanks name : List Char) : List Char :=
  opener ++ (blanks ++ ((tag ++ name) ++ ['>']))

/-- Two spellings of a conditional marker that are the same but for the case of the condition. -/
structure Recased (tag name name' text text' : List Char) : Prop where
  isTag : IsTag tag
  ne_nil : name ≠ []
  isNameChar : ∀ c ∈ name, isNameChar c = true
  sameLetters : SameLetters name name'
  marker : ∃ blanks, (∀ c ∈ blanks, Text.isBlank c = true) ∧ text = marker tag blanks name ∧
    text' = marker tag blanks name'

namespace Recased

variable {tag name name' text text' : List Char}

theorem refl (htag : IsTag tag) (hne : name ≠ []) (h : Spells (tag ++ name) text) :
    Recased tag name name text text where
  isTag := htag
  ne_nil := hne
  isNameChar c hc := h.2.1 c (List.mem_append_right tag hc)
  sameLetters := rfl
  marker := by
    obtain ⟨-, -, blanks, hblanks, htext⟩ := h
    exact ⟨blanks, hblanks, htext, htext⟩

theorem symm (h : Recased tag name name' text text') : Recased tag name' name text' text where
  isTag := h.isTag
  ne_nil := h.sameLetters.ne_nil h.ne_nil
  isNameChar := h.sameLetters.isNameChar h.isNameChar
  sameLetters := h.sameLetters.symm
  marker := by
    obtain ⟨blanks, hblanks, htext, htext'⟩ := h.marker
    exact ⟨blanks, hblanks, htext', htext⟩

theorem spells (h : Recased tag name name' text text') : Spells (tag ++ name) text := by
  obtain ⟨blanks, hblanks, htext, -⟩ := h.marker
  refine ⟨List.append_ne_nil_of_right_ne_nil tag h.ne_nil, ?_, blanks, hblanks, htext⟩
  intro c hc
  exact (List.mem_append.1 hc).elim (h.isTag.isNameChar c) (h.isNameChar c)

/-- The blanks of a marker can be read off its spelling, since they end where the tag starts. -/
theorem blanks_eq {blanks : List Char} (htag : IsTag tag)
    (hblanks : ∀ c ∈ blanks, Text.isBlank c = true) :
    ((Token.marker tag blanks name).drop opener.length).takeWhile Text.isBlank = blanks := by
  rw [Token.marker, List.drop_left, List.takeWhile_append_of_pos hblanks]
  rcases htag with rfl | rfl
  · exact List.append_nil blanks
  · exact List.append_nil blanks

instance (tag name name' text text' : List Char) : Decidable (Recased tag name name' text text') :=
  let blanks := (text.drop opener.length).takeWhile Text.isBlank
  decidable_of_iff (IsTag tag ∧ name ≠ [] ∧ name.all Token.isNameChar = true ∧
      SameLetters name name' ∧ text = Token.marker tag blanks name ∧
      text' = Token.marker tag blanks name') <| by
    rw [List.all_eq_true]
    constructor
    · rintro ⟨htag, hne, hname, hletters, htext, htext'⟩
      exact ⟨htag, hne, hname, hletters, blanks, fun c hc => List.mem_takeWhile_imp hc, htext,
        htext'⟩
    · rintro ⟨htag, hne, hname, hletters, bs, hbs, htext, htext'⟩
      have hblanks : blanks = bs := by
        simp only [blanks, htext]
        exact blanks_eq htag hbs
      rw [hblanks]
      exact ⟨htag, hne, hname, hletters, htext, htext'⟩

end Recased

/-- Two spellings of a token: a conditional marker may be recased, any other one is as it is. -/
inductive Rewritten : List Char → List Char → List Char → List Char → Prop where
  | same {name text : List Char} (h : Spells name text) : Rewritten name text name text
  | recased {tag name name' text text' : List Char} (h : Recased tag name name' text text') :
      Rewritten (tag ++ name) text (tag ++ name') text'

theorem Rewritten.spells {name text name' text' : List Char} (h : Rewritten name text name' text') :
    Spells name text ∧ Spells name' text' := by
  cases h with
  | same h => exact ⟨h, h⟩
  | recased h => exact ⟨h.spells, h.symm.spells⟩

theorem Rewritten.name_cases {name text name' text' : List Char}
    (h : Rewritten name text name' text') :
    name' = name ∨
      ∃ tag n n', IsTag tag ∧ SameLetters n n' ∧ name = tag ++ n ∧ name' = tag ++ n' := by
  cases h with
  | same h => exact .inl rfl
  | recased h => exact .inr ⟨_, _, _, h.isTag, h.sameLetters, rfl, rfl⟩

theorem Rewritten.recased_of_isTag {tag name text x text' : List Char} (htag : IsTag tag)
    (hne : name ≠ []) (h : Rewritten (tag ++ name) text x text') :
    ∃ name', x = tag ++ name' ∧ Recased tag name name' text text' := by
  generalize hx : tag ++ name = y at h
  cases h with
  | same h =>
    rw [← hx] at h
    exact ⟨name, hx.symm, .refl htag hne h⟩
  | recased h =>
    obtain ⟨rfl, rfl⟩ := htag.append_inj h.isTag hx
    exact ⟨_, rfl, h⟩

/-! ### Spellings of a text -/

/-- Two texts are the same but for the case of the conditions in some markers. -/
inductive Respelled : List Char → List Char → Prop where
  | nil : Respelled [] []
  | cons (c : Char) {s s' : List Char} (h : Respelled s s') : Respelled (c :: s) (c :: s')
  | marker {tag name name' text text' s s' : List Char}
      (hmarker : Recased tag name name' text text') (h : Respelled s s') :
      Respelled (text ++ s) (text' ++ s')

namespace Respelled

variable {s s' : List Char}

theorem refl (s : List Char) : Respelled s s := by
  induction s with
  | nil => exact .nil
  | cons c s ih => exact ih.cons c

theorem symm (h : Respelled s s') : Respelled s' s := by
  induction h with
  | nil => exact .nil
  | cons c h ih => exact ih.cons c
  | marker hmarker h ih => exact ih.marker hmarker.symm

theorem append {t t' : List Char} (h : Respelled s s') (ht : Respelled t t') :
    Respelled (s ++ t) (s' ++ t') := by
  induction h with
  | nil => exact ht
  | cons c h ih => exact ih.cons c
  | marker hmarker h ih =>
    rw [List.append_assoc, List.append_assoc]
    exact ih.marker hmarker

theorem cons_cases {c : Char} (h : Respelled (c :: s) s') :
    (∃ t, s' = c :: t ∧ Respelled s t) ∨
      ∃ tag name name' text text' rest rest', Recased tag name name' text text' ∧
        c :: s = text ++ rest ∧ s' = text' ++ rest' ∧ Respelled rest rest' := by
  generalize hs : c :: s = u at h
  cases h with
  | nil => cases hs
  | cons d h =>
    cases hs
    exact .inl ⟨_, rfl, h⟩
  | marker hmarker h => exact .inr ⟨_, _, _, _, _, _, _, hmarker, rfl, rfl, h⟩

theorem eq_nil (h : Respelled [] s') : s' = [] := by
  generalize hs : [] = u at h
  cases h with
  | nil => rfl
  | cons d h => cases hs
  | marker hmarker h =>
    obtain ⟨tail, rfl, -⟩ := hmarker.spells.exists_cons
    cases hs

/-- Where there is no `<`, nothing is respelled. -/
theorem of_append {u : List Char} (hu : '<' ∉ u) (h : Respelled (u ++ s) s') :
    ∃ t, s' = u ++ t ∧ Respelled s t := by
  induction u generalizing s' with
  | nil => exact ⟨s', rfl, h⟩
  | cons c u ih =>
    rw [List.mem_cons, not_or] at hu
    rw [List.cons_append] at h
    rcases h.cons_cases with ⟨r, rfl, hr⟩ | ⟨tag, name, name', text, text', rest, rest',
      hmarker, hs, -, -⟩
    · obtain ⟨t, rfl, ht⟩ := ih hu.2 hr
      exact ⟨t, rfl, ht⟩
    · obtain ⟨tail, rfl, -⟩ := hmarker.spells.exists_cons
      exact absurd (List.cons.inj hs).1.symm hu.1

/-- The same token stands at the head of a respelled text, in one of its spellings. -/
theorem of_spells {name text : List Char} (htext : Spells name text)
    (h : Respelled (text ++ s) s') :
    ∃ name' text' t, s' = text' ++ t ∧ Rewritten name text name' text' ∧ Respelled s t := by
  have hread := htext.matchAt?_append s
  obtain ⟨tail, rfl, htail⟩ := htext.exists_cons
  rw [List.cons_append] at h hread
  rcases h.cons_cases with ⟨r, rfl, hr⟩ | ⟨tag, n, n', text, text', rest, rest', hmarker, hs,
    rfl, hrest⟩
  · obtain ⟨t, rfl, ht⟩ := of_append htail hr
    exact ⟨name, _, t, rfl, .same htext, ht⟩
  · -- one token only can be read here
    rw [hs, hmarker.spells.matchAt?_append rest, Option.some.injEq, Prod.mk.injEq] at hread
    obtain ⟨rfl, rfl⟩ := hread
    rw [← List.cons_append] at hs
    rw [List.append_cancel_right hs]
    exact ⟨tag ++ n', text', rest', rfl, .recased hmarker, hrest⟩

theorem matchAt?_eq_none (h : Respelled s s') (hs : matchAt? [] s = none) :
    matchAt? [] s' = none := by
  by_contra hsome
  obtain ⟨⟨name, rest⟩, hm⟩ := Option.ne_none_iff_exists'.1 hsome
  obtain ⟨text, htext, rfl⟩ := matchAt?_nil_eq_some_iff.1 hm
  obtain ⟨name', text', t, rfl, hrewritten, -⟩ := of_spells htext h.symm
  rw [hrewritten.spells.2.matchAt?_append t] at hs
  cases hs

/-- Where no token starts, nothing is respelled. -/
theorem of_free {u : List Char} (hu : FreeOf [] u s) (h : Respelled (u ++ s) s') :
    ∃ t, s' = u ++ t ∧ FreeOf [] u t ∧ Respelled s t := by
  induction u generalizing s' with
  | nil => exact ⟨s', rfl, FreeOf.nil [] s', h⟩
  | cons c u ih =>
    obtain ⟨hhead, hrest⟩ := freeOf_cons_iff.1 hu
    rw [List.cons_append] at h
    have hhead' := h.matchAt?_eq_none hhead
    rcases h.cons_cases with ⟨r, rfl, hr⟩ | ⟨tag, name, name', text, text', rest, rest',
      hmarker, hs, -, -⟩
    · obtain ⟨t, rfl, hfree, ht⟩ := ih hrest hr
      exact ⟨t, rfl, freeOf_cons_iff.2 ⟨hhead', hfree⟩, ht⟩
    · rw [hs, hmarker.spells.matchAt?_append rest] at hhead
      cases hhead

end Respelled

/-! ### The tokens of a respelled text -/

/-- **A respelled text has its tokens at the same places.**  The text between them is the same. -/
theorem Cut.respelled {s s' tail : List Char} {slots : List Slot} (hcut : Cut s slots tail)
    (h : Respelled s s') :
    ∃ slots', Cut s' slots' tail ∧
      List.Forall₂ (fun slot slot' => slot.before = slot'.before ∧
        Rewritten slot.name slot.text slot'.name slot'.text) slots slots' := by
  induction hcut generalizing s' with
  | @plain tail hfree =>
    rw [← List.append_nil tail] at h
    obtain ⟨t, rfl, hfree', ht⟩ := Respelled.of_free hfree h
    rw [ht.eq_nil] at hfree' ⊢
    rw [List.append_nil]
    exact ⟨[], .plain hfree', .nil⟩
  | slot hfree htext hcut ih =>
    obtain ⟨t, rfl, hfree', ht⟩ := Respelled.of_free hfree h
    obtain ⟨name', text', t, rfl, hrewritten, ht⟩ := Respelled.of_spells htext ht
    obtain ⟨slots', hcut', hslots⟩ := ih ht
    exact ⟨_, .slot hfree' hrewritten.spells.2 hcut', .cons ⟨rfl, hrewritten⟩ hslots⟩

namespace Respelled

variable {s s' : List Char}

/-- Replacing tokens by what does not depend on the case of conditions makes the same of both. -/
theorem replaceAll_eq (h : Respelled s s') {f : List Char → List Char}
    (hf : ∀ tag name name', IsTag tag → SameLetters name name' →
      f (tag ++ name) = f (tag ++ name')) : replaceAll [] f s = replaceAll [] f s' := by
  obtain ⟨slots, tail, hcut⟩ := exists_cut s
  obtain ⟨slots', hcut', hslots⟩ := hcut.respelled h
  rw [hcut.replaceAll_eq, hcut'.replaceAll_eq, filled, filled]
  congr 1
  clear hcut hcut'
  induction hslots with
  | nil => rfl
  | cons hslot hslots ih =>
    obtain ⟨hbefore, hrewritten⟩ := hslot
    rw [List.flatMap_cons, List.flatMap_cons, ih, hbefore]
    congr 2
    rcases hrewritten.name_cases with hname | ⟨tag, n, n', htag, hletters, hname, hname'⟩
    · rw [hname]
    · rw [hname, hname', hf tag n n' htag hletters]

/-- The names of both texts are the same, apart from those of conditional markers. -/
theorem filter_allNames (h : Respelled s s') {p : String → Bool}
    (hp : ∀ tag name, IsTag tag → p (String.ofList (tag ++ name)) = false) :
    (allNames s).filter p = (allNames s').filter p := by
  obtain ⟨slots, tail, hcut⟩ := exists_cut s
  obtain ⟨slots', hcut', hslots⟩ := hcut.respelled h
  rw [hcut.allNames_eq, hcut'.allNames_eq]
  clear hcut hcut'
  induction hslots with
  | nil => rfl
  | cons hslot hslots ih =>
    rw [List.map_cons, List.map_cons, List.filter_cons, List.filter_cons, ih]
    rcases hslot.2.name_cases with hname | ⟨tag, n, n', htag, -, hname, hname'⟩
    · rw [hname]
    · rw [hname, hname', hp tag n htag, hp tag n' htag]
      rfl

end Respelled

end WorkspaceTemplates.Token

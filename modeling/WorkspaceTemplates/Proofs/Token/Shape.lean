/-
  WorkspaceTemplates/Proofs/Token/Shape.lean
  ==========================================
  **What a token looks like, and where tokens stand in a text.**

  `Token.matchAt?` is a reader.  This file says what it reads: a token is the
  opener, a run of blanks, a name and the closing `>`, and the reader finds one
  exactly when the text starts with that spelling (`matchAt?_eq_some_iff`).  Two
  facts about spellings carry everything that is proved about rendering: a token
  holds no `<` but its first character, and it holds no `>` but its last one.
  `Occurs` says that a token of a name stands somewhere in a text, and
  `mem_names_iff` that `names` lists exactly these names.
-/
import WorkspaceTemplates.Token
import Mathlib.Data.List.Infix
import Mathlib.Data.List.TakeWhile

namespace WorkspaceTemplates.Token

/-! ### Spellings -/

/-- `text` is a token of a name: the opener, blanks, the name and the closing. -/
def Spells (name text : List Char) : Prop :=
  name ≠ [] ∧ (∀ c ∈ name, isNameChar c = true) ∧
    ∃ blanks, (∀ c ∈ blanks, Text.isBlank c = true) ∧
      text = opener ++ (blanks ++ (name ++ ['>']))

theorem isPrefixOf?_eq_some_iff {p s r : List Char} :
    p.isPrefixOf? s = some r ↔ s = p ++ r := by
  induction p generalizing s with
  | nil =>
    cases s <;> exact ⟨fun h => (Option.some.inj h), fun h => congrArg some h⟩
  | cons a p ih =>
    cases s with
    | nil =>
      constructor
      · intro h; cases h
      · intro h; cases h
    | cons b s =>
      rw [isPrefixOf?_cons]
      by_cases hab : a = b
      · subst hab
        simp [ih]
      · rw [if_neg (by simpa using hab)]
        constructor
        · intro h; cases h
        · intro h
          exact absurd (List.cons.inj h).1.symm hab

theorem toNat_of_isNameChar {c : Char} (h : isNameChar c = true) :
    0x30 ≤ c.toNat ∧ c.toNat < 0x80 := by
  change ((decide ('A'.val ≤ c.val ∧ c.val ≤ 'Z'.val) ||
    (decide ('a'.val ≤ c.val) && decide (c.val ≤ 'z'.val))) ||
      (decide ('0'.val ≤ c.val) && decide (c.val ≤ '9'.val)) || c == '_') = true at h
  simp only [Bool.or_eq_true, Bool.and_eq_true, decide_eq_true_eq, beq_iff_eq] at h
  rcases h with ((h | h) | h) | rfl
  · exact ⟨Nat.le_trans (by decide) h.1, Nat.lt_of_le_of_lt h.2 (by decide)⟩
  · exact ⟨Nat.le_trans (by decide) h.1, Nat.lt_of_le_of_lt h.2 (by decide)⟩
  · exact ⟨h.1, Nat.lt_of_le_of_lt h.2 (by decide)⟩
  · decide

theorem isBlank_of_isNameChar {c : Char} (h : isNameChar c = true) : Text.isBlank c = false := by
  have hrange := toNat_of_isNameChar h
  simp only [Text.isBlank, Bool.or_eq_false_iff, Bool.and_eq_false_iff, decide_eq_false_iff_not,
    beq_eq_false_iff_ne]
  omega

theorem nameAndClose?_eq_some_iff {s name rest : List Char} :
    nameAndClose? s = some (name, rest) ↔
      name ≠ [] ∧ (∀ c ∈ name, isNameChar c = true) ∧ s = name ++ '>' :: rest := by
  constructor
  · intro h
    unfold nameAndClose? at h
    split at h
    · rename_i a as r ht hd
      cases h
      have hs := List.takeWhile_append_dropWhile (p := isNameChar) (l := s)
      rw [ht, hd] at hs
      refine ⟨List.cons_ne_nil _ _, ?_, hs.symm⟩
      intro c hc
      exact List.mem_takeWhile_imp (ht ▸ hc)
    · cases h
  · rintro ⟨hne, hname, rfl⟩
    obtain ⟨a, as, rfl⟩ := List.exists_cons_of_ne_nil hne
    unfold nameAndClose?
    rw [List.takeWhile_append_of_pos hname, List.dropWhile_append_of_pos hname,
      List.takeWhile_cons_of_neg (by decide), List.dropWhile_cons_of_neg (by decide),
      List.append_nil]
    rfl

/-- **The reader finds exactly the tokens.**  A token is read at the head of a text when the
    text starts with a spelling of a name that continues after the tag. -/
theorem matchAt?_eq_some_iff {tag s name rest : List Char}
    (htag : ∀ c ∈ tag, isNameChar c = true) :
    matchAt? tag s = some (name, rest) ↔
      name ≠ [] ∧ ∃ text, Spells (tag ++ name) text ∧ s = text ++ rest := by
  constructor
  · intro h
    obtain ⟨a, ha, h⟩ := Option.bind_eq_some_iff.1 h
    obtain ⟨b, hb, h⟩ := Option.bind_eq_some_iff.1 h
    obtain ⟨hne, hname, rfl⟩ := nameAndClose?_eq_some_iff.1 h
    have hs := isPrefixOf?_eq_some_iff.1 ha
    have hd := isPrefixOf?_eq_some_iff.1 hb
    have hall : ∀ c ∈ tag ++ name, isNameChar c = true := by
      intro c hc
      exact (List.mem_append.1 hc).elim (htag c) (hname c)
    refine ⟨hne, opener ++ (a.takeWhile Text.isBlank ++ ((tag ++ name) ++ ['>'])),
      ⟨List.append_ne_nil_of_right_ne_nil _ hne, hall, _, fun c hc => List.mem_takeWhile_imp hc,
        rfl⟩, ?_⟩
    have ha' := List.takeWhile_append_dropWhile (p := Text.isBlank) (l := a)
    rw [hd] at ha'
    calc s = opener ++ (a.takeWhile Text.isBlank ++ (tag ++ (name ++ '>' :: rest))) := by
          rw [hs, ha']
      _ = _ := by simp
  · rintro ⟨hne, text, ⟨-, hall, blanks, hblanks, rfl⟩, rfl⟩
    refine Option.bind_eq_some_iff.2 ⟨_, isPrefixOf?_eq_some_iff.2 (List.append_assoc _ _ _), ?_⟩
    refine Option.bind_eq_some_iff.2 ⟨name ++ '>' :: rest, ?_, ?_⟩
    · -- the blanks end where the name starts, since no name has a blank in it
      rw [isPrefixOf?_eq_some_iff, List.append_assoc, List.dropWhile_append_of_pos hblanks]
      obtain ⟨c, cs, hcs⟩ := List.exists_cons_of_ne_nil
        (List.append_ne_nil_of_right_ne_nil tag hne)
      have hc : Text.isBlank c = false :=
        isBlank_of_isNameChar (hall c (hcs ▸ List.mem_cons_self))
      rw [hcs, List.cons_append, List.cons_append, List.dropWhile_cons_of_neg (by simp [hc]),
        ← List.cons_append, ← List.cons_append, ← hcs]
      simp
    · refine nameAndClose?_eq_some_iff.2 ⟨hne, fun c hc => hall c ?_, rfl⟩
      exact List.mem_append_right _ hc

theorem ifTag_isNameChar : ∀ c ∈ ifTag, isNameChar c = true :=
  List.all_eq_true.1 (by decide)

theorem endifTag_isNameChar : ∀ c ∈ endifTag, isNameChar c = true :=
  List.all_eq_true.1 (by decide)

/-- Reading any token, whatever its name starts with. -/
theorem matchAt?_nil_eq_some_iff {s name rest : List Char} :
    matchAt? [] s = some (name, rest) ↔ ∃ text, Spells name text ∧ s = text ++ rest := by
  rw [matchAt?_eq_some_iff (by simp)]
  constructor
  · rintro ⟨-, h⟩
    exact h
  · rintro ⟨text, ht, hs⟩
    exact ⟨ht.1, text, ht, hs⟩

/-- Reading a token with a tag is reading a token whose name goes on after the tag. -/
theorem matchAt?_eq_some_iff_nil {tag s name rest : List Char}
    (htag : ∀ c ∈ tag, isNameChar c = true) :
    matchAt? tag s = some (name, rest) ↔ name ≠ [] ∧ matchAt? [] s = some (tag ++ name, rest) := by
  rw [matchAt?_eq_some_iff htag, matchAt?_nil_eq_some_iff]

/-! ### The first and the last character of a token -/

namespace Spells

variable {name text : List Char}

theorem exists_cons (h : Spells name text) : ∃ tail, text = '<' :: tail ∧ '<' ∉ tail := by
  obtain ⟨-, hname, blanks, hblanks, rfl⟩ := h
  refine ⟨"PLACEHOLDER:".toList ++ (blanks ++ (name ++ ['>'])), rfl, ?_⟩
  intro hmem
  rcases List.mem_append.1 hmem with h | h
  · exact absurd h (by decide)
  · rcases List.mem_append.1 h with h | h
    · exact absurd (hblanks _ h) (by decide)
    · rcases List.mem_append.1 h with h | h
      · exact absurd (hname _ h) (by decide)
      · exact absurd h (by decide)

theorem matchAt?_append (h : Spells name text) (rest : List Char) :
    matchAt? [] (text ++ rest) = some (name, rest) :=
  matchAt?_nil_eq_some_iff.2 ⟨text, h, rfl⟩

end Spells

theorem head?_of_matchAt? {s : List Char} {p : List Char × List Char}
    (h : matchAt? [] s = some p) : s.head? = some '<' := by
  obtain ⟨text, ht, rfl⟩ := matchAt?_nil_eq_some_iff.1 (Prod.eta p ▸ h)
  obtain ⟨tail, rfl, -⟩ := ht.exists_cons
  rfl

theorem matchAt?_append_of_eq_some {s name rest : List Char}
    (h : matchAt? [] s = some (name, rest)) (t : List Char) :
    matchAt? [] (s ++ t) = some (name, rest ++ t) := by
  obtain ⟨text, ht, rfl⟩ := matchAt?_nil_eq_some_iff.1 h
  rw [List.append_assoc]
  exact ht.matchAt?_append _

/-! ### The tokens of a text -/

/-- A token of a name stands in a text. -/
def Occurs (name s : List Char) : Prop := ∃ text, Spells name text ∧ text <:+: s

theorem occurs_iff {name s : List Char} :
    Occurs name s ↔ ∃ a b rest, s = a ++ b ∧ matchAt? [] b = some (name, rest) := by
  constructor
  · rintro ⟨text, ht, a, b, rfl⟩
    exact ⟨a, text ++ b, b, List.append_assoc a text b, ht.matchAt?_append b⟩
  · rintro ⟨a, b, rest, rfl, hb⟩
    obtain ⟨text, ht, rfl⟩ := matchAt?_nil_eq_some_iff.1 hb
    exact ⟨text, ht, a, rest, List.append_assoc a text rest⟩

theorem Occurs.mono {name s t : List Char} (h : Occurs name s) (hst : s <:+: t) :
    Occurs name t := by
  obtain ⟨text, ht, hs⟩ := h
  exact ⟨text, ht, hs.trans hst⟩

theorem not_occurs_nil (name : List Char) : ¬ Occurs name [] := by
  rw [occurs_iff]
  rintro ⟨a, b, rest, hs, hb⟩
  obtain ⟨-, rfl⟩ := List.append_eq_nil_iff.1 hs.symm
  cases hb

/-- A token of a text starts with its first character or stands in what follows. -/
theorem occurs_cons_iff {name s : List Char} {c : Char} :
    Occurs name (c :: s) ↔ (∃ rest, matchAt? [] (c :: s) = some (name, rest)) ∨ Occurs name s := by
  constructor
  · rintro ⟨text, ht, hinfix⟩
    rcases List.infix_cons_iff.1 hinfix with ⟨rest, hprefix⟩ | hinfix
    · exact .inl ⟨rest, hprefix ▸ ht.matchAt?_append rest⟩
    · exact .inr ⟨text, ht, hinfix⟩
  · rintro (⟨rest, hm⟩ | h)
    · exact occurs_iff.2 ⟨[], c :: s, rest, rfl, hm⟩
    · exact h.mono (List.suffix_cons c s).isInfix

theorem mem_occurrencesFrom_iff {name s : List Char} {offset : Nat} :
    (∃ o ∈ occurrencesFrom [] offset s, o.name = name) ↔ Occurs name s := by
  induction s generalizing offset with
  | nil => simp [occurrencesFrom, not_occurs_nil]
  | cons c s ih =>
    have hlater := @ih (offset + c.utf8Size)
    rw [occurs_cons_iff, ← hlater, occurrencesFrom]
    cases hm : matchAt? [] (c :: s) with
    | none => simp
    | some p => simp [Prod.ext_iff, eq_comm]

/-- **The names of a text are those of the tokens that stand in it.** -/
theorem mem_names_iff {n s : String} : n ∈ names s ↔ Occurs n.toList s.toList := by
  rw [names, List.mem_eraseDups, allNames, List.mem_map, ← mem_occurrencesFrom_iff]
  constructor
  · rintro ⟨o, ho, rfl⟩
    exact ⟨o, ho, String.toList_ofList.symm⟩
  · rintro ⟨o, ho, hn⟩
    exact ⟨o, ho, by rw [hn, String.ofList_toList]⟩

theorem names_eq_nil_iff {s : String} : names s = [] ↔ ∀ name, ¬ Occurs name s.toList := by
  rw [List.eq_nil_iff_forall_not_mem]
  constructor
  · intro h name ho
    refine h (String.ofList name) (mem_names_iff.2 ?_)
    rwa [String.toList_ofList]
  · intro h n hn
    exact h _ (mem_names_iff.1 hn)

/-! ### Where no token starts -/

/-- No token with a tag starts in the first one of two texts that stand together. -/
def FreeOf (tag u s : List Char) : Prop :=
  ∀ b, b <:+ u → b ≠ [] → matchAt? tag (b ++ s) = none

section FreeOf

variable {tag u s : List Char}

theorem FreeOf.nil (tag s : List Char) : FreeOf tag [] s :=
  fun _ hb hne => absurd (List.suffix_nil.1 hb) hne

theorem freeOf_cons_iff {c : Char} :
    FreeOf tag (c :: u) s ↔ matchAt? tag (c :: (u ++ s)) = none ∧ FreeOf tag u s := by
  constructor
  · intro h
    refine ⟨h _ (List.suffix_refl _) (List.cons_ne_nil c u), ?_⟩
    exact fun b hb => h b (hb.trans (List.suffix_cons c u))
  · rintro ⟨hhead, hrest⟩ b hb hne
    rcases List.suffix_cons_iff.1 hb with rfl | hb
    · exact hhead
    · exact hrest b hb hne

/-- A text in which no token starts, with nothing after it, has none. -/
theorem FreeOf.not_occurs {name : List Char} (h : FreeOf [] u []) : ¬ Occurs name u := by
  intro hoccurs
  obtain ⟨a, b, rest, rfl, hb⟩ := occurs_iff.1 hoccurs
  have hne : b ≠ [] := by
    rintro rfl
    cases hb
  have hnone := h b (List.suffix_append a b) hne
  rw [List.append_nil, hb] at hnone
  cases hnone

theorem matchAt?_of_head_ne {c : Char} (htag : ∀ c ∈ tag, isNameChar c = true) (hc : c ≠ '<') :
    matchAt? tag (c :: s) = none := by
  by_contra hsome
  obtain ⟨⟨name, rest⟩, hm⟩ := Option.ne_none_iff_exists'.1 hsome
  obtain ⟨-, hm⟩ := (matchAt?_eq_some_iff_nil htag).1 hm
  exact hc (Option.some.inj (head?_of_matchAt? hm))

theorem freeOf_of_not_mem (htag : ∀ c ∈ tag, isNameChar c = true) (hu : '<' ∉ u) :
    FreeOf tag u s := by
  induction u with
  | nil => exact FreeOf.nil tag s
  | cons c u ih =>
    rw [List.mem_cons, not_or] at hu
    exact freeOf_cons_iff.2 ⟨matchAt?_of_head_ne htag (Ne.symm hu.1), ih hu.2⟩

end FreeOf

end WorkspaceTemplates.Token

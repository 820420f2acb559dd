/-
  WorkspaceTemplates/Proofs/Words/Scan.lean
  =========================================
  **Which letters a name keeps, and where it is cut.**

  A name can be split by a cursor: at its place a word of small letters is looked for
  first, then a run of capitals, and if there is neither, the cursor goes one place on.
  Two rules look ahead here: a capital before a small letter opens a word, and a run of
  capitals gives its last one back to what follows.

  The loop ends, and its words are those of `split`.  What they are does not depend on
  how far the cursor is: a letter is kept unless it is a capital before something that
  is no letter, and between two kept letters side by side there is a cut exactly where
  a word of small letters ends or is about to begin (`split_spans`).
-/
import WorkspaceTemplates.Proofs.Words

namespace WorkspaceTemplates.Words

/-! ### Places of a text -/

section Places

variable {p : Char → Bool} {s : List Char} {i q : Nat}

/-- Whether a character with a property stands at a place. -/
def standsAt (p : Char → Bool) (s : List Char) (i : Nat) : Bool := s[i]?.any p

/-- The first place, from a given one on, without the property. -/
def runEnd (p : Char → Bool) (s : List Char) (i : Nat) : Nat :=
  i + ((s.drop i).takeWhile p).length

theorem lt_length_of_standsAt (h : standsAt p s i = true) : i < s.length := by
  by_contra hi
  rw [standsAt, List.getElem?_eq_none (Nat.le_of_not_lt hi)] at h
  cases h

theorem standsAt_isAlpha (h : standsAt Char.isLower s i = true ∨ standsAt Char.isUpper s i = true) :
    standsAt Char.isAlpha s i = true := by
  unfold standsAt at h ⊢
  cases hc : s[i]? with
  | none => simp [hc] at h
  | some c => simpa [hc, Char.isAlpha, or_comm] using h

theorem standsAt_isLower_of_isUpper (h : standsAt Char.isUpper s i = true) :
    standsAt Char.isLower s i = false := by
  unfold standsAt at h ⊢
  cases hc : s[i]? with
  | none => rfl
  | some c =>
    rw [hc] at h
    exact Bool.eq_false_iff.2 (Char.not_isLower_of_isUpper h)

theorem standsAt_isUpper_of_isLower (h : standsAt Char.isLower s i = true) :
    standsAt Char.isUpper s i = false :=
  Bool.eq_false_iff.2 fun hu => by rw [standsAt_isLower_of_isUpper hu] at h; cases h

theorem le_runEnd (p : Char → Bool) (s : List Char) (i : Nat) : i ≤ runEnd p s i :=
  Nat.le_add_right _ _

theorem getElem?_add_eq (p : Char → Bool) (s : List Char) (i k : Nat) :
    s[i + k]? = ((s.drop i).takeWhile p ++ (s.drop i).dropWhile p)[k]? := by
  rw [List.takeWhile_append_dropWhile, List.getElem?_drop]

theorem standsAt_of_lt_runEnd (hi : i ≤ q) (hq : q < runEnd p s i) : standsAt p s q = true := by
  obtain ⟨k, rfl⟩ := Nat.exists_eq_add_of_le hi
  have hk : k < ((s.drop i).takeWhile p).length := by
    unfold runEnd at hq
    omega
  have hp : p ((s.drop i).takeWhile p)[k] = true := List.mem_takeWhile_imp (List.getElem_mem hk)
  rw [standsAt, getElem?_add_eq p, List.getElem?_append_left hk, List.getElem?_eq_getElem hk]
  exact hp

theorem standsAt_runEnd (p : Char → Bool) (s : List Char) (i : Nat) :
    standsAt p s (runEnd p s i) = false := by
  rw [standsAt, runEnd, getElem?_add_eq p, List.getElem?_append_right le_rfl, Nat.sub_self,
    ← List.head?_eq_getElem?]
  have hnot := List.head?_dropWhile_not p (s.drop i)
  cases h : ((s.drop i).dropWhile p).head? with
  | none => rfl
  | some c =>
    rw [h] at hnot
    exact hnot

theorem lt_runEnd_iff : i < runEnd p s i ↔ standsAt p s i = true := by
  constructor
  · exact fun h => standsAt_of_lt_runEnd le_rfl h
  · intro h
    refine Nat.lt_of_le_of_ne (le_runEnd p s i) fun he => ?_
    rw [he, standsAt_runEnd] at h
    cases h

theorem runEnd_le_length (hi : i ≤ s.length) : runEnd p s i ≤ s.length := by
  have h := ((s.drop i).takeWhile_sublist p).length_le
  rw [List.length_drop] at h
  unfold runEnd
  omega

end Places

/-! ### The loop -/

/-- The places from one up to another. -/
structure Span where
  start : Nat
  stop : Nat
deriving DecidableEq, Repr

namespace Span

/-- The places of a span, in order. -/
def places (w : Span) : List Nat := List.range' w.start (w.stop - w.start)

/-- The part of a text at the places of a span. -/
def slice (s : List Char) (w : Span) : List Char := s.extract w.start w.stop

end Span

/-- Where the word of small letters that starts at a place ends, a capital before them included. -/
def lowerWordEnd? (s : List Char) (i : Nat) : Option Nat :=
  let body := if standsAt Char.isUpper s i && standsAt Char.isLower s (i + 1) then i + 1 else i
  let stop := runEnd Char.isLower s body
  if body < stop then some stop else none

/-- Where the run of capitals that starts at a place ends; before other text it is one shorter. -/
def upperRunEnd? (s : List Char) (i : Nat) : Option Nat :=
  let stop := runEnd Char.isUpper s i
  if stop = i then none
  else if stop = s.length then some stop
  else if i < stop - 1 then some (stop - 1)
  else none

/-- Where the word that starts at a place ends. -/
def wordEnd? (s : List Char) (i : Nat) : Option Nat :=
  (lowerWordEnd? s i).or (upperRunEnd? s i)

/-- The loop from a place on, with the words found before; nothing if the turns run out. -/
def loop (s : List Char) : (turns i : Nat) → (found : List Span) → Option (List Span)
  | 0, _, _ => none
  | turns + 1, i, found =>
    if i < s.length then
      match wordEnd? s i with
      | some stop => loop s turns stop (found ++ [⟨i, stop⟩])
      | none => loop s turns (i + 1) found
    else some found

/-- What the loop finds from a place on, turn by turn. -/
inductive Cut (s : List Char) : Nat → List Span → Prop
  | done {i : Nat} (hi : s.length ≤ i) : Cut s i []
  | word {i stop : Nat} {spans : List Span} (hi : i < s.length) (hword : wordEnd? s i = some stop)
      (rest : Cut s stop spans) : Cut s i (⟨i, stop⟩ :: spans)
  | skip {i : Nat} {spans : List Span} (hi : i < s.length) (hword : wordEnd? s i = none)
      (rest : Cut s (i + 1) spans) : Cut s i spans

/-! ### What a turn does -/

section Turn

variable {s : List Char} {i stop q : Nat} {w : Span}

/-- The two kinds of words, by what stands at their places and after them. -/
inductive IsWord (s : List Char) (w : Span) : Prop
  | lower (ne : w.start < w.stop)
      (first : standsAt Char.isLower s w.start = true ∨
        standsAt Char.isUpper s w.start = true ∧ w.start + 1 < w.stop)
      (others : ∀ q, w.start < q → q < w.stop → standsAt Char.isLower s q = true)
      (next : standsAt Char.isLower s w.stop = false)
  | upper (ne : w.start < w.stop)
      (all : ∀ q, w.start ≤ q → q < w.stop → standsAt Char.isUpper s q = true)
      (next : w.stop = s.length ∨ standsAt Char.isUpper s w.stop = true ∧
        w.stop + 1 < s.length ∧ standsAt Char.isUpper s (w.stop + 1) = false)

/-- A small letter, or a capital at the end of the text or directly before a letter. -/
def isKept (s : List Char) (i : Nat) : Bool :=
  standsAt Char.isLower s i ||
    standsAt Char.isUpper s i && (i + 1 == s.length || standsAt Char.isAlpha s (i + 1))

theorem lowerWordEnd?_of_isUpper (h : standsAt Char.isUpper s i = true)
    (hnext : standsAt Char.isLower s (i + 1) = true) :
    lowerWordEnd? s i = some (runEnd Char.isLower s (i + 1)) := by
  rw [lowerWordEnd?, h, hnext, Bool.and_self, if_pos rfl, if_pos (lt_runEnd_iff.2 hnext)]

theorem lowerWordEnd?_of_isLower (h : standsAt Char.isLower s i = true) :
    lowerWordEnd? s i = some (runEnd Char.isLower s i) := by
  rw [lowerWordEnd?, standsAt_isUpper_of_isLower h, Bool.false_and, if_neg Bool.false_ne_true,
    if_pos (lt_runEnd_iff.2 h)]

theorem lowerWordEnd?_eq_none (h : standsAt Char.isLower s i = false)
    (hnext : standsAt Char.isUpper s i = false ∨ standsAt Char.isLower s (i + 1) = false) :
    lowerWordEnd? s i = none := by
  have hbody := Bool.eq_false_iff.1 (Bool.and_eq_false_iff.2 hnext)
  rw [lowerWordEnd?, if_neg hbody, if_neg]
  rw [lt_runEnd_iff, h]
  exact Bool.false_ne_true

theorem isWord_of_lowerWordEnd? (h : lowerWordEnd? s i = some stop) : IsWord s ⟨i, stop⟩ := by
  unfold lowerWordEnd? at h
  simp only at h
  split at h <;> rename_i hcapital
  · rw [Bool.and_eq_true] at hcapital
    split at h <;> cases h
    rename_i hlt
    refine .lower (by simp only; omega) (.inr ⟨hcapital.1, hlt⟩) ?_ (standsAt_runEnd _ _ _)
    exact fun q hi hq => standsAt_of_lt_runEnd hi hq
  · split at h <;> cases h
    rename_i hlt
    refine .lower hlt (.inl (lt_runEnd_iff.1 hlt)) ?_ (standsAt_runEnd _ _ _)
    exact fun q hi hq => standsAt_of_lt_runEnd (Nat.le_of_lt hi) hq

theorem isWord_of_upperRunEnd? (hi : i < s.length) (h : upperRunEnd? s i = some stop) :
    IsWord s ⟨i, stop⟩ := by
  have hle := le_runEnd Char.isUpper s i
  have hlength := runEnd_le_length (p := Char.isUpper) hi.le
  have hall : ∀ q, i ≤ q → q < runEnd Char.isUpper s i → standsAt Char.isUpper s q = true :=
    fun q hi hq => standsAt_of_lt_runEnd hi hq
  unfold upperRunEnd? at h
  simp only at h
  split at h
  · cases h
  · split at h
    · rename_i hne hend
      cases h
      exact .upper (by simp only; omega) hall (.inl hend)
    · split at h <;> cases h
      rename_i hne hend hlt
      have hlast : runEnd Char.isUpper s i - 1 + 1 = runEnd Char.isUpper s i := by omega
      refine .upper hlt (fun q hi hq => hall q hi (by simp only at hq; omega)) (.inr ⟨?_, ?_, ?_⟩)
      · exact hall _ (by simp only; omega) (by simp only; omega)
      · simp only
        omega
      · simp only [hlast]
        exact standsAt_runEnd _ _ _

theorem isWord_of_wordEnd? (hi : i < s.length) (h : wordEnd? s i = some stop) :
    IsWord s ⟨i, stop⟩ := by
  rcases Option.or_eq_some_iff.1 h with h | ⟨-, h⟩
  · exact isWord_of_lowerWordEnd? h
  · exact isWord_of_upperRunEnd? hi h

/-- Only a capital before something that is no letter, or no letter at all, starts no word. -/
theorem isKept_of_wordEnd?_eq_none (h : wordEnd? s i = none) : isKept s i = false := by
  obtain ⟨hlower, hupper⟩ := Option.or_eq_none_iff.1 h
  have hsmall : standsAt Char.isLower s i = false := by
    refine Bool.eq_false_iff.2 fun hs => ?_
    rw [lowerWordEnd?_of_isLower hs] at hlower
    cases hlower
  rw [isKept, hsmall, Bool.false_or, Bool.and_eq_false_iff]
  cases hcapital : standsAt Char.isUpper s i with
  | false => exact .inl rfl
  | true =>
    -- a run of one capital that does not end the text, and no small letter after it
    right
    have hnext : standsAt Char.isLower s (i + 1) = false := by
      refine Bool.eq_false_iff.2 fun hs => ?_
      rw [lowerWordEnd?_of_isUpper hcapital hs] at hlower
      cases hlower
    have hrun := lt_runEnd_iff.2 hcapital
    unfold upperRunEnd? at hupper
    simp only at hupper
    rw [if_neg (by omega)] at hupper
    split at hupper
    · cases hupper
    · rename_i hend
      split at hupper
      · cases hupper
      · rename_i hone
        have hstop : runEnd Char.isUpper s i = i + 1 := by omega
        have hnextUpper := standsAt_runEnd Char.isUpper s i
        rw [hstop] at hend hnextUpper
        rw [Bool.or_eq_false_iff, beq_eq_false_iff_ne]
        refine ⟨hend, ?_⟩
        unfold standsAt at hnext hnextUpper ⊢
        cases hc : s[i + 1]? with
        | none => rfl
        | some c =>
          rw [hc] at hnext hnextUpper
          exact Bool.or_eq_false_iff.2 ⟨hnextUpper, hnext⟩

theorem IsWord.ne (h : IsWord s w) : w.start < w.stop := by
  cases h <;> assumption

theorem IsWord.isAlpha (h : IsWord s w) (hi : w.start ≤ q) (hq : q < w.stop) :
    standsAt Char.isAlpha s q = true := by
  cases h with
  | lower _ first others _ =>
    rcases Nat.eq_or_lt_of_le hi with rfl | hi
    · exact standsAt_isAlpha (first.imp_right And.left)
    · exact standsAt_isAlpha (.inl (others q hi hq))
  | upper _ all _ => exact standsAt_isAlpha (.inr (all q hi hq))

theorem IsWord.stop_le (h : IsWord s w) : w.stop ≤ s.length := by
  have hne := h.ne
  have hlast := lt_length_of_standsAt (h.isAlpha (q := w.stop - 1) (by omega) (by omega))
  omega

/-- All letters of a word are kept. -/
theorem IsWord.isKept (h : IsWord s w) (hi : w.start ≤ q) (hq : q < w.stop) :
    isKept s q = true := by
  rw [Words.isKept, Bool.or_eq_true, Bool.and_eq_true, Bool.or_eq_true, beq_iff_eq]
  have hnext : q + 1 < w.stop → standsAt Char.isAlpha s (q + 1) = true :=
    fun hlt => h.isAlpha (by omega) hlt
  cases h with
  | lower _ first others _ =>
    rcases Nat.eq_or_lt_of_le hi with rfl | hi
    · exact first.imp_right fun ⟨hcapital, hlt⟩ => ⟨hcapital, .inr (hnext hlt)⟩
    · exact .inl (others q hi hq)
  | upper _ all next =>
    refine .inr ⟨all q hi hq, ?_⟩
    rcases Nat.lt_or_ge (q + 1) w.stop with hlt | hge
    · exact .inr (hnext hlt)
    · have hstop : q + 1 = w.stop := by omega
      rw [hstop]
      exact next.imp_right fun ⟨hcapital, _⟩ => standsAt_isAlpha (.inr hcapital)

/-- Where a word is about to begin after the letter at a place, or a word of small letters ends. -/
def isCut (s : List Char) (i : Nat) : Bool :=
  standsAt Char.isUpper s (i + 1) &&
    (standsAt Char.isLower s i || standsAt Char.isLower s (i + 2))

theorem IsWord.isCut (h : IsWord s w) (hi : w.start ≤ q) (hq : q + 1 < w.stop) :
    isCut s q = false := by
  rw [Words.isCut, Bool.and_eq_false_iff, Bool.or_eq_false_iff]
  cases h with
  | lower _ _ others _ =>
    exact .inl (standsAt_isUpper_of_isLower (others (q + 1) (by omega) hq))
  | upper _ all next =>
    refine .inr ⟨standsAt_isLower_of_isUpper (all q hi (by omega)), ?_⟩
    rcases Nat.lt_or_ge (q + 2) w.stop with hlt | hge
    · exact standsAt_isLower_of_isUpper (all (q + 2) (by omega) hlt)
    · have hstop : q + 2 = w.stop := by omega
      rw [hstop]
      rcases next with hend | ⟨hcapital, -⟩
      · rw [hend, standsAt, List.getElem?_eq_none le_rfl]
        rfl
      · exact standsAt_isLower_of_isUpper hcapital

/-- A word starts with a letter. -/
theorem IsWord.isUpper_start (h : IsWord s w) (hsmall : standsAt Char.isLower s w.start = false) :
    standsAt Char.isUpper s w.start = true := by
  cases h with
  | lower _ first _ _ =>
    exact (first.resolve_left (by rw [hsmall]; exact Bool.false_ne_true)).1
  | upper ne all _ => exact all _ le_rfl ne

/-- A word that starts with a single capital before other text goes on with a small letter, since
such a capital alone is no word. -/
theorem IsWord.isLower_second (h : IsWord s w) (hcapital : standsAt Char.isUpper s w.start = true)
    (hlt : w.start + 1 < s.length) (hone : standsAt Char.isUpper s (w.start + 1) = false) :
    standsAt Char.isLower s (w.start + 1) = true := by
  cases h with
  | lower _ first others _ =>
    have hsmall := standsAt_isLower_of_isUpper hcapital
    obtain ⟨-, htwo⟩ := first.resolve_left (by rw [hsmall]; exact Bool.false_ne_true)
    exact others _ (Nat.lt_succ_self _) htwo
  | upper ne all next =>
    exfalso
    rcases Nat.lt_or_ge (w.start + 1) w.stop with htwo | hge
    · rw [all _ (Nat.le_succ _) htwo] at hone
      cases hone
    · have hstop : w.stop = w.start + 1 := by omega
      rcases next with hend | ⟨hcapital', -⟩
      · omega
      · rw [hstop, hone] at hcapital'
        cases hcapital'

/-- Between two words side by side there is a cut. -/
theorem IsWord.isCut_of_adjacent {v : Span} (hv : IsWord s v) (hw : IsWord s w)
    (h : v.stop = w.start) : Words.isCut s (v.stop - 1) = true := by
  have hne := hv.ne
  have hstop : v.stop - 1 + 1 = w.start := by omega
  have hstop' : v.stop - 1 + 2 = w.start + 1 := by omega
  rw [Words.isCut, hstop, hstop', Bool.and_eq_true, Bool.or_eq_true]
  cases hv with
  | lower _ first others next =>
    rw [h] at next
    refine ⟨hw.isUpper_start next, .inl ?_⟩
    rcases Nat.lt_or_ge (v.start + 1) v.stop with hlt | hge
    · exact others _ (by omega) (by omega)
    · have hone : v.stop - 1 = v.start := by omega
      rw [hone]
      exact first.resolve_right fun hcapital => by omega
  | upper _ _ next =>
    have hwne := hw.ne
    have hwstop := hw.stop_le
    obtain ⟨hcapital, hlt, hone⟩ := next.resolve_left (by omega)
    rw [h] at hcapital hlt hone
    exact ⟨hcapital, .inr (hw.isLower_second hcapital hlt hone)⟩

end Turn

/-! ### What the loop finds -/

section Cut

variable {s : List Char} {i : Nat} {spans : List Span}

/-- The loop ends when it has more turns left than places. -/
theorem exists_cut_of_lt {turns : Nat} (h : s.length - i < turns) (found : List Span) :
    ∃ spans, Cut s i spans ∧ loop s turns i found = some (found ++ spans) := by
  induction turns generalizing i found with
  | zero => omega
  | succ turns ih =>
    rw [loop]
    by_cases hi : i < s.length
    · rw [if_pos hi]
      cases hword : wordEnd? s i with
      | some stop =>
        have hne : i < stop := (isWord_of_wordEnd? hi hword).ne
        obtain ⟨spans, hcut, hloop⟩ := ih (i := stop) (by omega) (found ++ [⟨i, stop⟩])
        refine ⟨_, .word hi hword hcut, ?_⟩
        simp only [hloop, List.append_assoc, List.singleton_append]
      | none =>
        obtain ⟨spans, hcut, hloop⟩ := ih (i := i + 1) (by omega) found
        exact ⟨spans, .skip hi hword hcut, hloop⟩
    · rw [if_neg hi]
      exact ⟨[], .done (by omega), by rw [List.append_nil]⟩

theorem Cut.isWord (h : Cut s i spans) : ∀ w ∈ spans, i ≤ w.start ∧ IsWord s w := by
  induction h with
  | done => simp
  | @word i stop spans hi hword _ ih =>
    have hw := isWord_of_wordEnd? hi hword
    have hne : i < stop := hw.ne
    refine List.forall_mem_cons.2 ⟨⟨le_rfl, hw⟩, fun w hmem => ⟨?_, (ih w hmem).2⟩⟩
    exact hne.le.trans (ih w hmem).1
  | @skip i spans _ _ _ ih =>
    exact fun w hmem => ⟨(Nat.le_succ i).trans (ih w hmem).1, (ih w hmem).2⟩

/-- Two words are the same, or one ends before the other begins. -/
theorem Cut.eq_or_before (h : Cut s i spans) :
    ∀ v ∈ spans, ∀ w ∈ spans, v = w ∨ v.stop ≤ w.start ∨ w.stop ≤ v.start := by
  induction h with
  | done => simp
  | word _ _ rest ih =>
    intro v hv w hw
    rcases List.mem_cons.1 hv with rfl | hv' <;> rcases List.mem_cons.1 hw with rfl | hw'
    · exact .inl rfl
    · exact .inr (.inl (rest.isWord w hw').1)
    · exact .inr (.inr (rest.isWord v hv').1)
    · exact ih v hv' w hw'
  | skip _ _ _ ih => exact ih

/-- The places of the words are those of the letters that are kept. -/
theorem Cut.flatMap_places (h : Cut s i spans) :
    spans.flatMap Span.places = (List.range' i (s.length - i)).filter (isKept s) := by
  induction h with
  | @done i hi => rw [Nat.sub_eq_zero_of_le hi]; rfl
  | @word i stop spans hi hword _ ih =>
    have hw := isWord_of_wordEnd? hi hword
    have hne : i < stop := hw.ne
    have hstop : stop ≤ s.length := hw.stop_le
    have hall : (Span.places ⟨i, stop⟩).filter (isKept s) = Span.places ⟨i, stop⟩ := by
      refine List.filter_eq_self.2 fun q hq => ?_
      obtain ⟨hi, hq⟩ := List.mem_range'_1.1 hq
      exact hw.isKept hi (by simp only at hi hq ⊢; omega)
    have hsplit : List.range' i (s.length - i) =
        Span.places ⟨i, stop⟩ ++ List.range' stop (s.length - stop) := by
      have hlength : s.length - i = (stop - i) + (s.length - stop) := by omega
      have hfrom : i + 1 * (stop - i) = stop := by omega
      rw [hlength, ← List.range'_append, hfrom]
      rfl
    rw [List.flatMap_cons, ih, hsplit, List.filter_append, hall]
  | @skip i spans hi hword _ ih =>
    have hlength : s.length - i = (s.length - (i + 1)) + 1 := by omega
    rw [ih, hlength, List.range'_succ, List.filter_cons_of_neg]
    rw [isKept_of_wordEnd?_eq_none hword]
    exact Bool.false_ne_true

/-- Two letters side by side are in different words exactly where there is a cut. -/
theorem Cut.ne_iff (h : Cut s i spans) {v w : Span} (hv : v ∈ spans) (hw : w ∈ spans) {q : Nat}
    (hvq : v.start ≤ q ∧ q < v.stop) (hwq : w.start ≤ q + 1 ∧ q + 1 < w.stop) :
    v ≠ w ↔ isCut s q = true := by
  constructor
  · intro hne
    have hadjacent : v.stop = w.start := by
      have := (h.eq_or_before v hv w hw).resolve_left hne
      omega
    have hlast : v.stop - 1 = q := by omega
    rw [← hlast]
    exact (h.isWord v hv).2.isCut_of_adjacent (h.isWord w hw).2 hadjacent
  · rintro hcut rfl
    rw [(h.isWord v hv).2.isCut hvq.1 hwq.2] at hcut
    cases hcut

end Cut

/-! ### The words of the loop -/

section Slices

variable {p : Char → Bool} {s : List Char} {i : Nat}

theorem extract_add (s : List Char) (i k : Nat) : s.extract i (i + k) = (s.drop i).take k := by
  rw [List.extract_eq_take_drop, Nat.add_sub_cancel_left]

theorem extract_runEnd (p : Char → Bool) (s : List Char) (i : Nat) :
    s.extract i (runEnd p s i) = (s.drop i).takeWhile p := by
  rw [runEnd, extract_add]
  nth_rewrite 2 [← List.takeWhile_append_dropWhile (p := p) (l := s.drop i)]
  exact List.take_left

theorem drop_runEnd (p : Char → Bool) (s : List Char) (i : Nat) :
    s.drop (runEnd p s i) = (s.drop i).dropWhile p := by
  rw [runEnd, ← List.drop_drop]
  nth_rewrite 2 [← List.takeWhile_append_dropWhile (p := p) (l := s.drop i)]
  exact List.drop_left

theorem lowerWord?_drop (s : List Char) (i : Nat) :
    lowerWord? (s.drop i) =
      (lowerWordEnd? s i).map fun stop => (s.extract i stop, s.drop stop) := by
  have hstands : ∀ p i, standsAt p s i = (s.drop i).head?.any p :=
    fun p i => by rw [standsAt, List.head?_drop]
  have hnext : s.drop (i + 1) = (s.drop i).tail := by rw [← List.drop_drop, List.drop_one]
  have hupper := hstands Char.isUpper i
  have hlower := hstands Char.isLower i
  have hlowerNext := hstands Char.isLower (i + 1)
  cases hs : s.drop i with
  | nil =>
    rw [hs] at hupper hlower
    rw [lowerWordEnd?_eq_none hlower (.inl hupper)]
    rfl
  | cons c rest =>
    rw [hnext, hs, List.tail_cons] at hlowerNext
    rw [hs, List.head?_cons, Option.any_some] at hupper hlower
    rw [lowerWord?, ← hlowerNext, ← hupper, ← hlower]
    by_cases hcapital : (standsAt Char.isUpper s i && standsAt Char.isLower s (i + 1)) = true
    · obtain ⟨hu, hl⟩ := Bool.and_eq_true_iff.1 hcapital
      have hstop : runEnd Char.isLower s (i + 1) =
          i + ((rest.takeWhile Char.isLower).length + 1) := by
        rw [runEnd, hnext, hs, List.tail_cons]
        omega
      rw [if_pos hcapital, lowerWordEnd?_of_isUpper hu hl, Option.map_some, drop_runEnd, hnext, hs,
        List.tail_cons, hstop, extract_add, hs, List.take_succ_cons]
      nth_rewrite 4 [← List.takeWhile_append_dropWhile (p := Char.isLower) (l := rest)]
      rw [List.take_left]
    · rw [if_neg hcapital]
      rw [Bool.not_eq_true, Bool.and_eq_false_iff] at hcapital
      by_cases hl : standsAt Char.isLower s i = true
      · rw [if_pos hl, lowerWordEnd?_of_isLower hl, Option.map_some, extract_runEnd, drop_runEnd,
          hs]
      · rw [if_neg hl, lowerWordEnd?_eq_none (Bool.eq_false_iff.2 hl) hcapital]
        rfl

theorem capitals?_drop (hi : i ≤ s.length) :
    capitals? (s.drop i) = (upperRunEnd? s i).map fun stop => (s.extract i stop, s.drop stop) := by
  have hs := List.takeWhile_append_dropWhile (p := Char.isUpper) (l := s.drop i)
  have hlength := congrArg List.length hs
  rw [List.length_append, List.length_drop] at hlength
  unfold capitals? upperRunEnd? runEnd
  generalize (s.drop i).takeWhile Char.isUpper = run at *
  generalize (s.drop i).dropWhile Char.isUpper = rest at *
  have hextract : ∀ k, s.extract i (i + k) = (run ++ rest).take k :=
    fun k => by rw [extract_add, hs]
  have hdrop : ∀ k, s.drop (i + k) = (run ++ rest).drop k :=
    fun k => by rw [← List.drop_drop, hs]
  cases run with
  | nil => simp
  | cons a run =>
    cases rest with
    | nil =>
      have hstop : i + (a :: run).length = s.length := by
        simp only [List.length_nil] at hlength; omega
      simp only [if_neg (show ¬ i + (a :: run).length = i by simp), if_pos hstop, hextract,
        Option.map_some, List.append_nil, List.take_length, hdrop, List.drop_length]
    | cons d rest =>
      have hstop : ¬ i + (a :: run).length = s.length := by
        simp only [List.length_cons] at hlength ⊢; omega
      simp only [if_neg (show ¬ i + (a :: run).length = i by simp), if_neg hstop]
      cases run with
      | nil => simp
      | cons b run =>
        have hlast : i + (a :: b :: run).length - 1 = i + (b :: run).length := by simp
        have hgiven : a :: b :: run ++ d :: rest =
            (a :: b :: run).dropLast ++ ((a :: b :: run).getLast (by simp) :: d :: rest) := by
          nth_rewrite 1 [← List.dropLast_append_getLast (List.cons_ne_nil a (b :: run))]
          rw [List.append_assoc, List.singleton_append]
        have hcount : (a :: b :: run).dropLast.length = (b :: run).length := by simp
        rw [if_pos (by simp), hlast, Option.map_some, hextract, hdrop, hgiven,
          List.take_left' hcount, List.drop_left' hcount]

theorem word?_drop (hi : i ≤ s.length) :
    word? (s.drop i) = (wordEnd? s i).map fun stop => (s.extract i stop, s.drop stop) := by
  rw [word?, wordEnd?, lowerWord?_drop, capitals?_drop hi]
  cases lowerWordEnd? s i <;> rfl

/-- The words from a place on are those that the loop finds from there. -/
theorem Cut.splitChars_drop {spans : List Span} (h : Cut s i spans) :
    splitChars (s.drop i) = spans.map (Span.slice s) := by
  induction h with
  | done hi => rw [List.drop_eq_nil_of_le hi, splitChars, List.map_nil]
  | word hi hword _ ih =>
    have hread := word?_drop hi.le
    rw [hword, Option.map_some] at hread
    rw [splitChars_of_word? hread, ih]
    rfl
  | skip hi hword _ ih =>
    have hread := word?_drop hi.le
    rw [hword, Option.map_none, List.drop_eq_getElem_cons hi] at hread
    rw [List.drop_eq_getElem_cons hi, splitChars_of_word?_eq_none hread, ih]

/-- The characters at given places, in order. -/
def charsAt (s : List Char) (places : List Nat) : List Char := places.filterMap (s[·]?)

theorem charsAt_range' (s : List Char) (i k : Nat) :
    charsAt s (List.range' i k) = (s.drop i).take k := by
  induction k generalizing i with
  | zero => rfl
  | succ k ih =>
    unfold charsAt at ih ⊢
    rw [List.range'_succ]
    by_cases hi : i < s.length
    · rw [List.filterMap_cons_some (List.getElem?_eq_getElem hi), ih, List.drop_eq_getElem_cons hi,
        List.take_succ_cons]
    · have hi := Nat.le_of_not_lt hi
      rw [List.filterMap_cons_none (List.getElem?_eq_none hi), ih, List.drop_eq_nil_of_le hi,
        List.drop_eq_nil_of_le (hi.trans (Nat.le_succ i)), List.take_nil, List.take_nil]

theorem charsAt_places (s : List Char) (w : Span) : charsAt s w.places = w.slice s := by
  rw [Span.places, Span.slice, charsAt_range', List.extract_eq_take_drop]

/-- **The words of a name are its kept letters, cut where a word is about to begin.**  The
    loop ends within one turn more than the name has characters.  Joined, its words are the
    letters that are kept; each is a part of the name, with an optional capital and small
    letters or with capitals only; and two letters side by side are in different words
    exactly where there is a cut. -/
theorem split_spans (name : String) :
    ∃ spans : List Span,
      loop name.toList (name.toList.length + 1) 0 [] = some spans ∧
      split name = spans.map (fun w => String.ofList (w.slice name.toList)) ∧
      spans.flatMap Span.places =
        (List.range name.toList.length).filter (isKept name.toList) ∧
      String.join (split name) = String.ofList
        (charsAt name.toList ((List.range name.toList.length).filter (isKept name.toList))) ∧
      (∀ w ∈ spans, w.start < w.stop ∧ w.stop ≤ name.toList.length ∧
        IsWordText (w.slice name.toList)) ∧
      ∀ v ∈ spans, ∀ w ∈ spans, ∀ q, (v.start ≤ q ∧ q < v.stop) →
        (w.start ≤ q + 1 ∧ q + 1 < w.stop) → (v ≠ w ↔ isCut name.toList q = true) := by
  obtain ⟨spans, hcut, hloop⟩ :=
    exists_cut_of_lt (s := name.toList) (i := 0) (Nat.lt_succ_of_le (Nat.sub_le _ _)) []
  have hchars : splitChars name.toList = spans.map (Span.slice name.toList) := hcut.splitChars_drop
  have hplaces : spans.flatMap Span.places =
      (List.range name.toList.length).filter (isKept name.toList) := by
    rw [hcut.flatMap_places, List.range_eq_range', Nat.sub_zero]
  refine ⟨spans, hloop, ?_, hplaces, ?_, ?_, fun v hv w hw q => hcut.ne_iff hv hw⟩
  · rw [split, hchars, List.map_map]
    rfl
  · have hjoin : splitChars name.toList = (split name).map String.toList := by
      have hid : String.toList ∘ String.ofList = id := funext fun _ => String.toList_ofList
      rw [split, List.map_map, hid, List.map_id]
    rw [String.join_eq, ← hjoin, hchars, ← hplaces, charsAt, List.filterMap_flatMap]
    congr 1
    exact (List.flatMap_congr fun w _ => charsAt_places _ w).symm
  · intro w hw
    have hword := (hcut.isWord w hw).2
    refine ⟨hword.ne, hword.stop_le, isWordText_of_mem_splitChars (s := name.toList) ?_⟩
    rw [hchars]
    exact List.mem_map_of_mem hw

/-- The run `HTTPS` gives its last capital to the next word, and the `V` before a digit is lost. -/
theorem split_spans_acronym :
    loop "HTTPServerV2Api".toList 16 0 [] = some [⟨0, 4⟩, ⟨4, 10⟩, ⟨12, 15⟩] ∧
      split "HTTPServerV2Api" = ["HTTP", "Server", "Api"] ∧
      isCut "HTTPServerV2Api".toList 3 = true := by
  obtain ⟨spans, hloop, hsplit, -, -, -, hcuts⟩ := split_spans "HTTPServerV2Api"
  have hrun : loop "HTTPServerV2Api".toList 16 0 [] = some [⟨0, 4⟩, ⟨4, 10⟩, ⟨12, 15⟩] := by decide
  have hspans : spans = [⟨0, 4⟩, ⟨4, 10⟩, ⟨12, 15⟩] := Option.some.inj (hloop.symm.trans hrun)
  subst hspans
  refine ⟨hrun, hsplit.trans (by decide), ?_⟩
  exact (hcuts ⟨0, 4⟩ (by decide) ⟨4, 10⟩ (by decide) 3 (by decide) (by decide)).1 (by decide)

end Slices

end WorkspaceTemplates.Words

/-
  WorkspaceTemplates/Proofs/Words.lean
  ====================================
  **Keys in snake case and names in camel case.**

  A key in snake case is made of segments, and its name in camel case raises each of
  them but the first.  Splitting the name finds the segments again, with one exception:
  single letters that follow one another have become one run of capitals, and a run of
  capitals is one word (`splitChars_flatMap_raised`).  So the way back from the name
  gives the key exactly when no two single letters stand side by side after the first
  segment (`SnakeKey.intercalate_lower_split_eq_iff`).
-/
import WorkspaceTemplates.Proofs.Text.Case
import WorkspaceTemplates.Proofs.Text.Pieces
import WorkspaceTemplates.Words

namespace WorkspaceTemplates.Words

/-! ### Reading a word -/

section Reading

variable {c d : Char} {w s : List Char}

/-- A run of characters with a property ends before the first one without it. -/
theorem span_of_stops {p : Char → Bool} (hw : ∀ c ∈ w, p c = true)
    (hs : ∀ c ∈ s.head?, p c = false) :
    (w ++ s).takeWhile p = w ∧ (w ++ s).dropWhile p = s := by
  rw [List.takeWhile_append_of_pos hw, List.dropWhile_append_of_pos hw]
  cases s with
  | nil => exact ⟨List.append_nil w, rfl⟩
  | cons c s =>
    have hc : ¬ p c = true := by
      rw [hs c rfl]
      exact Bool.false_ne_true
    rw [List.takeWhile_cons_of_neg hc, List.dropWhile_cons_of_neg hc]
    exact ⟨List.append_nil w, rfl⟩

theorem splitChars_of_word? {r : List Char} (h : word? s = some (w, r)) :
    splitChars s = w :: splitChars r := by
  cases s with
  | nil => cases h
  | cons c s =>
    rw [splitChars]
    split
    · rename_i h'
      rw [h] at h'
      cases h'
      rfl
    · rename_i h'
      rw [h] at h'
      cases h'

theorem splitChars_of_word?_eq_none (h : word? (c :: s) = none) :
    splitChars (c :: s) = splitChars s := by
  rw [splitChars]
  split
  · rename_i h'
    rw [h] at h'
    cases h'
  · rfl

theorem word?_of_isLower (hw : ∀ c ∈ w, c.isLower = true) (hne : w ≠ [])
    (hs : ∀ c ∈ s.head?, c.isLower = false) : word? (w ++ s) = some (w, s) := by
  obtain ⟨htake, hdrop⟩ := span_of_stops hw hs
  obtain ⟨c, w, rfl⟩ := List.exists_cons_of_ne_nil hne
  have hc : c.isLower = true := hw c List.mem_cons_self
  have hsmall : c.isUpper = false := Bool.eq_false_iff.2 (Char.not_isUpper_of_isLower hc)
  rw [List.cons_append] at htake hdrop
  rw [word?, List.cons_append, lowerWord?, hsmall, Bool.false_and, if_neg Bool.false_ne_true,
    if_pos hc, htake, hdrop]
  rfl

theorem word?_of_capitalized (hc : c.isUpper = true) (hw : ∀ c ∈ w, c.isLower = true)
    (hne : w ≠ []) (hs : ∀ c ∈ s.head?, c.isLower = false) :
    word? (c :: (w ++ s)) = some (c :: w, s) := by
  obtain ⟨htake, hdrop⟩ := span_of_stops hw hs
  obtain ⟨d, w, rfl⟩ := List.exists_cons_of_ne_nil hne
  have hd : d.isLower = true := hw d List.mem_cons_self
  have hhead : (d :: w ++ s).head?.any Char.isLower = true := hd
  rw [word?, lowerWord?, hc, hhead, Bool.true_and, if_pos rfl, htake, hdrop]
  rfl

theorem word?_of_isUpper (hc : c.isUpper = true) (hs : ∀ d ∈ s.head?, d.isLower = false) :
    word? (c :: s) = capitals? (c :: s) := by
  have hhead : s.head?.any Char.isLower = false := by
    cases s with
    | nil => rfl
    | cons d s => exact hs d rfl
  have hlarge : ¬ c.isLower = true := Char.not_isLower_of_isUpper hc
  rw [word?, lowerWord?, hhead, Bool.and_false, if_neg Bool.false_ne_true, if_neg hlarge]
  rfl

theorem capitals?_of_isUpper (hw : ∀ c ∈ w, c.isUpper = true) (hne : w ≠ []) :
    capitals? w = some (w, []) := by
  have hspan := span_of_stops (s := []) hw (by simp)
  rw [List.append_nil] at hspan
  obtain ⟨c, w, rfl⟩ := List.exists_cons_of_ne_nil hne
  rw [capitals?, hspan.1, hspan.2]

/-- A run of capitals before other text leaves its last capital to what follows. -/
theorem capitals?_append (hw : ∀ c ∈ w, c.isUpper = true) (hne : w ≠ []) (hc : c.isUpper = true)
    (hd : d.isUpper = false) : capitals? (w ++ c :: d :: s) = some (w, c :: d :: s) := by
  have hall : ∀ x ∈ w ++ [c], x.isUpper = true := by
    intro x hx
    rcases List.mem_append.1 hx with hx | hx
    · exact hw x hx
    · rw [List.mem_singleton.1 hx]
      exact hc
  obtain ⟨htake, hdrop⟩ := span_of_stops (s := d :: s) hall (by simpa using hd)
  rw [List.append_assoc, List.singleton_append] at htake hdrop
  obtain ⟨a, w, rfl⟩ := List.exists_cons_of_ne_nil hne
  rw [capitals?, htake, hdrop]
  cases w with
  | nil => rfl
  | cons b w =>
    show some ((a :: b :: w ++ [c]).dropLast, (a :: b :: w ++ [c]).getLast _ :: d :: s) = _
    rw [List.dropLast_concat, List.getLast_concat]

/-- An optional capital and small letters after it, or a run of capitals. -/
inductive IsWordText : List Char → Prop
  | lower (capital : Option Char) (letters : List Char) (hcapital : ∀ c ∈ capital, c.isUpper = true)
      (ne : letters ≠ []) (hletters : ∀ c ∈ letters, c.isLower = true) :
      IsWordText (capital.toList ++ letters)
  | upper (letters : List Char) (ne : letters ≠ []) (hletters : ∀ c ∈ letters, c.isUpper = true) :
      IsWordText letters

theorem IsWordText.isAlpha (h : IsWordText w) : ∀ c ∈ w, c.isAlpha = true := by
  cases h with
  | lower _ _ hcapital _ hletters =>
    intro c hc
    rcases List.mem_append.1 hc with hc | hc
    · rw [Char.isAlpha, hcapital c (Option.mem_toList.1 hc), Bool.true_or]
    · rw [Char.isAlpha, hletters c hc, Bool.or_true]
  | upper _ _ hletters =>
    intro c hc
    rw [Char.isAlpha, hletters c hc, Bool.true_or]

theorem isWordText_of_lowerWord? {r : List Char} (h : lowerWord? s = some (w, r)) :
    IsWordText w := by
  have hletters : ∀ {t : List Char}, ∀ c ∈ t.takeWhile Char.isLower, c.isLower = true :=
    fun c hc => List.mem_takeWhile_imp hc
  have hne : ∀ {c : Char} {t : List Char}, c.isLower = true →
      (c :: t).takeWhile Char.isLower ≠ [] := fun hc => by
    rw [List.takeWhile_cons_of_pos hc]
    exact List.cons_ne_nil _ _
  unfold lowerWord? at h
  split at h
  · cases h
  · rename_i c rest
    split at h
    · rename_i hc
      cases h
      obtain ⟨hupper, hnext⟩ := Bool.and_eq_true_iff.1 hc
      cases rest with
      | nil => cases hnext
      | cons d rest =>
        exact .lower (some c) ((d :: rest).takeWhile Char.isLower)
          (fun _ hd => Option.some.inj hd ▸ hupper) (hne hnext) hletters
    · split at h
      · rename_i hlower
        cases h
        exact .lower none ((c :: rest).takeWhile Char.isLower)
          (fun _ hd => absurd hd (Option.not_mem_none _)) (hne hlower) hletters
      · cases h

theorem isWordText_of_capitals? {r : List Char} (h : capitals? s = some (w, r)) :
    IsWordText w := by
  have hletters : ∀ c ∈ s.takeWhile Char.isUpper, c.isUpper = true :=
    fun c hc => List.mem_takeWhile_imp hc
  unfold capitals? at h
  split at h
  · cases h
  · rename_i htake _
    cases h
    rw [htake] at hletters
    exact .upper _ (List.cons_ne_nil _ _) hletters
  · cases h
  · rename_i htake _
    cases h
    rw [htake] at hletters
    exact .upper _ (List.cons_ne_nil _ _) fun c hc => hletters c (List.mem_of_mem_dropLast hc)

theorem isWordText_of_word? {r : List Char} (h : word? s = some (w, r)) : IsWordText w := by
  rcases Option.or_eq_some_iff.1 h with h | ⟨-, h⟩
  · exact isWordText_of_lowerWord? h
  · exact isWordText_of_capitals? h

theorem isWordText_of_mem_splitChars (hw : w ∈ splitChars s) : IsWordText w := by
  fun_induction splitChars s with
  | case1 => cases hw
  | case2 c rest v r hv ih =>
    rcases List.mem_cons.1 hw with rfl | hw
    · exact isWordText_of_word? hv
    · exact ih hw
  | case3 c rest hv ih => exact ih hw

end Reading

/-! ### Joining words -/

section Joining

theorem intercalate_ofList (ws : List (List Char)) :
    "_".intercalate (ws.map String.ofList) = String.ofList (['_'].intercalate ws) := by
  rw [← String.toList_inj, String.toList_intercalate, String.toList_ofList, List.map_map]
  have hid : String.toList ∘ String.ofList = id := funext fun _ => String.toList_ofList
  rw [hid, List.map_id, String.toList_ofList]

theorem isAscii_of_isAlpha {w : List Char} (h : ∀ c ∈ w, c.isAlpha = true) : Text.IsAscii w := by
  intro c hc
  rcases Bool.or_eq_true_iff.1 (h c hc) with hc | hc
  · exact Text.toNat_lt_of_isUpper hc
  · exact Text.toNat_lt_of_isLower hc

theorem snakeCase_eq (name : String) :
    snakeCase name = "_".intercalate ((split name).map Text.lower) := by
  -- words are made of letters, so lowering them one by one does not change how a sigma is lowered
  have hwords : ∀ w ∈ splitChars name.toList, Text.IsAscii w :=
    fun w hw => isAscii_of_isAlpha (isWordText_of_mem_splitChars hw).isAlpha
  have hlowered : (split name).map Text.lower =
      ((splitChars name.toList).map (List.map Char.toLower)).map String.ofList := by
    rw [split, List.map_map, List.map_map]
    exact List.map_congr_left fun w hw => Text.lower_ofList_of_isAscii (hwords w hw)
  have hjoined : Text.IsAscii (['_'].intercalate (splitChars name.toList)) := by
    intro c hc
    rcases Text.mem_intercalate hc with hc | ⟨w, hw, hc⟩
    · rw [List.mem_singleton.1 hc]
      decide
    · exact hwords w hw c hc
  rw [hlowered, intercalate_ofList, snakeCase, split, intercalate_ofList,
    Text.lower_ofList_of_isAscii hjoined, Text.map_intercalate]
  rfl

end Joining

/-! ### Keys in snake case -/

/-- A word of a key: small letters, at least one. -/
structure Segment where
  letters : List Char
  ne_nil : letters ≠ []
  isLower : ∀ c ∈ letters, c.isLower = true

namespace Segment

/-- Whether the segment is a single letter. -/
def isSingle (s : Segment) : Bool := s.letters.length == 1

/-- The segment as it stands in a name in camel case. -/
def raised (s : Segment) : List Char := Text.capitalizeChars s.letters

/-- Two single letters side by side: their capitals are read as one word. -/
def merges (s t : Segment) : Bool := s.isSingle && t.isSingle

theorem exists_raised (s : Segment) : ∃ c w, s.letters = c :: w ∧ s.raised = c.toUpper :: w ∧
    c.isLower = true ∧ ∀ d ∈ w, d.isLower = true := by
  obtain ⟨c, w, hletters⟩ := List.exists_cons_of_ne_nil s.ne_nil
  have hlower := s.isLower
  rw [hletters, List.forall_mem_cons] at hlower
  refine ⟨c, w, hletters, ?_, hlower⟩
  rw [raised, hletters, Text.capitalizeChars_of_isLower hlower.1 hlower.2]

theorem map_toLower_letters (s : Segment) : s.letters.map Char.toLower = s.letters := by
  rw [List.map_congr_left fun c hc => Text.toLower_of_isLower (s.isLower c hc), List.map_id']

theorem map_toLower_raised (s : Segment) : s.raised.map Char.toLower = s.letters := by
  obtain ⟨c, w, hletters, hraised, hc, -⟩ := s.exists_raised
  have hlow := s.map_toLower_letters
  rw [hletters, List.map_cons] at hlow
  rw [hraised, List.map_cons, Text.toLower_toUpper_of_isLower hc, (List.cons.inj hlow).2, hletters]

theorem isAscii_raised (s : Segment) : Text.IsAscii s.raised := by
  obtain ⟨c, w, -, hraised, hc, hw⟩ := s.exists_raised
  rw [hraised]
  refine List.forall_mem_cons.2 ⟨?_, Text.isAscii_of_isLower hw⟩
  exact Text.toNat_lt_of_isUpper (Text.isUpper_toUpper_of_isLower hc)

/-- What small letters may stand before: the end of the text or a capital. -/
theorem head?_flatMap_raised (ss : List Segment) :
    ∀ c ∈ (ss.flatMap raised).head?, c.isLower = false := by
  cases ss with
  | nil => simp
  | cons s ss =>
    obtain ⟨c, w, -, hraised, -, -⟩ := s.exists_raised
    rw [List.flatMap_cons, hraised]
    simp

theorem isSingle_iff {s : Segment} {c : Char} {w : List Char} (h : s.letters = c :: w) :
    s.isSingle = true ↔ w = [] := by
  simp [isSingle, h]

theorem isUpper_of_mem_flatMap_raised {ss : List Segment} (h : ∀ s ∈ ss, s.isSingle = true) :
    ∀ c ∈ ss.flatMap raised, c.isUpper = true := by
  intro c hc
  obtain ⟨s, hs, hc⟩ := List.mem_flatMap.1 hc
  obtain ⟨d, w, hletters, hraised, hd, -⟩ := s.exists_raised
  rw [hraised, (isSingle_iff hletters).1 (h s hs), List.mem_singleton] at hc
  rw [hc]
  exact Text.isUpper_toUpper_of_isLower hd

end Segment

/-- A key in snake case: segments that underscores join. -/
structure SnakeKey where
  first : Segment
  others : List Segment

namespace SnakeKey

/-- The segments of a key, in order. -/
def segments (k : SnakeKey) : List (List Char) := (k.first :: k.others).map Segment.letters

/-- The text of a key. -/
def text (k : SnakeKey) : String := String.ofList (['_'].intercalate k.segments)

/-- No two segments after the first that stand side by side are both single letters. -/
def Separable (k : SnakeKey) : Prop :=
  k.others.IsChain fun s t => ¬ (s.letters.length = 1 ∧ t.letters.length = 1)

instance (k : SnakeKey) : Decidable k.Separable :=
  inferInstanceAs (Decidable (List.IsChain _ _))

end SnakeKey

/-! ### The words of a name in camel case -/

section Groups

open Segment

/-- Segments that are read as one word: a long one alone, or single letters. -/
def OneWord (g : List Segment) : Prop :=
  (∃ s, g = [s] ∧ s.isSingle = false) ∨ (g ≠ [] ∧ ∀ s ∈ g, s.isSingle = true)

theorem oneWord_of_isChain {g : List Segment} (hne : g ≠ [])
    (h : g.IsChain fun s t => s.merges t) : OneWord g := by
  induction h with
  | nil => exact absurd rfl hne
  | singleton s =>
    cases hs : s.isSingle with
    | false => exact .inl ⟨s, rfl, hs⟩
    | true => exact .inr ⟨hne, by simpa using hs⟩
  | @cons_cons s t g hst hrest ih =>
    obtain ⟨hs, ht⟩ := Bool.and_eq_true_iff.1 hst
    rcases ih (List.cons_ne_nil t g) with ⟨u, hu, hlong⟩ | ⟨-, hall⟩
    · cases hu
      rw [ht] at hlong
      cases hlong
    · exact .inr ⟨hne, List.forall_mem_cons.2 ⟨hs, hall⟩⟩

/-- The segments that are read as one word are read when the next word is another one. -/
theorem word?_flatMap_raised {g : List Segment} {ss : List Segment} (hg : OneWord g)
    (hss : ∀ t ∈ ss.head?, ∃ s ∈ g, s.merges t = false) :
    word? (g.flatMap raised ++ ss.flatMap raised) =
      some (g.flatMap raised, ss.flatMap raised) := by
  rcases hg with ⟨s, rfl, hlong⟩ | ⟨hne, hall⟩
  · obtain ⟨c, w, hletters, hraised, hc, hw⟩ := s.exists_raised
    have hwne : w ≠ [] := by
      rintro rfl
      rw [(isSingle_iff hletters).2 rfl] at hlong
      cases hlong
    rw [List.flatMap_singleton, hraised, List.cons_append]
    exact word?_of_capitalized (Text.isUpper_toUpper_of_isLower hc) hw hwne
      (head?_flatMap_raised ss)
  · have hupper := isUpper_of_mem_flatMap_raised hall
    have hrun : g.flatMap raised ≠ [] := by
      obtain ⟨s, g, rfl⟩ := List.exists_cons_of_ne_nil hne
      obtain ⟨c, w, -, hraised, -⟩ := s.exists_raised
      rw [List.flatMap_cons, hraised]
      exact List.cons_ne_nil _ _
    generalize g.flatMap raised = run at hupper hrun ⊢
    have hcapitals : capitals? (run ++ ss.flatMap raised) = some (run, ss.flatMap raised) := by
      cases ss with
      | nil =>
        rw [List.flatMap_nil, List.append_nil]
        exact capitals?_of_isUpper hupper hrun
      | cons t ss =>
        -- the next word is a long segment, whose capital does not belong to the run
        obtain ⟨s, hs, hst⟩ := hss t rfl
        obtain ⟨c, w, hletters, hraised, hc, hw⟩ := t.exists_raised
        have hlong : w ≠ [] := by
          rintro rfl
          rw [merges, hall s hs, (isSingle_iff hletters).2 rfl] at hst
          cases hst
        obtain ⟨d, w, rfl⟩ := List.exists_cons_of_ne_nil hlong
        have hd : d.isUpper = false :=
          Bool.eq_false_iff.2 (Char.not_isUpper_of_isLower (hw d List.mem_cons_self))
        rw [List.flatMap_cons, hraised]
        exact capitals?_append hupper hrun (Text.isUpper_toUpper_of_isLower hc) hd
    obtain ⟨c, run, rfl⟩ := List.exists_cons_of_ne_nil hrun
    have hnext : ∀ d ∈ (run ++ ss.flatMap raised).head?, d.isLower = false := by
      cases run with
      | nil => exact head?_flatMap_raised ss
      | cons d run =>
        have hd := hupper d (List.mem_cons_of_mem c List.mem_cons_self)
        simpa using Char.not_isLower_of_isUpper hd
    rw [List.cons_append, word?_of_isUpper (hupper c List.mem_cons_self) hnext, ← List.cons_append,
      hcapitals]

/-- **The words of raised segments are the groups of segments that merge.** -/
theorem splitChars_flatMap_raised (ss : List Segment) :
    splitChars (ss.flatMap raised) = (ss.splitBy merges).map fun g => g.flatMap raised := by
  obtain ⟨hss, hne, hchain, hsep⟩ := List.splitBy_eq_iff.1 (rfl : ss.splitBy merges = _)
  generalize ss.splitBy merges = gs at hss hne hchain hsep ⊢
  subst hss
  -- by induction on the groups: a word ends where the last segment of its group does not merge
  induction gs with
  | nil => rw [List.flatten_nil, List.flatMap_nil, splitChars, List.map_nil]
  | cons g gs ih =>
    rw [List.mem_cons, not_or] at hne
    have hg : OneWord g := oneWord_of_isChain (Ne.symm hne.1) (hchain g List.mem_cons_self)
    have hnext : ∀ t ∈ gs.flatten.head?, ∃ s ∈ g, s.merges t = false := by
      cases gs with
      | nil => simp
      | cons b gs =>
        obtain ⟨⟨ha, hb, hlast⟩, -⟩ := List.isChain_cons_cons.1 hsep
        intro t ht
        obtain ⟨u, b, rfl⟩ := List.exists_cons_of_ne_nil hb
        rw [List.flatten_cons, List.cons_append, List.head?_cons, Option.mem_some_iff] at ht
        subst ht
        exact ⟨g.getLast ha, List.getLast_mem ha, hlast⟩
    rw [List.flatten_cons, List.flatMap_append, splitChars_of_word? (word?_flatMap_raised hg hnext),
      ih hne.2 (fun m hm => hchain m (List.mem_cons_of_mem g hm)) hsep.tail, List.map_cons]

theorem length_le_length_flatten {α : Type} {gs : List (List α)} (hne : [] ∉ gs) :
    gs.length ≤ gs.flatten.length := by
  rw [List.length_flatten, ← List.length_map List.length]
  apply List.length_le_sum_of_one_le
  intro n hn
  obtain ⟨g, hg, rfl⟩ := List.mem_map.1 hn
  exact List.length_pos_of_ne_nil (ne_of_mem_of_not_mem hg hne)

/-- Lists that are not empty, as many as they have elements, have one each. -/
theorem eq_map_singleton_of_length_le {α : Type} {gs : List (List α)} (hne : [] ∉ gs)
    (h : gs.flatten.length ≤ gs.length) : gs = gs.flatten.map fun a => [a] := by
  induction gs with
  | nil => rfl
  | cons g gs ih =>
    rw [List.mem_cons, not_or] at hne
    obtain ⟨a, g, rfl⟩ := List.exists_cons_of_ne_nil (Ne.symm hne.1)
    have hrest := length_le_length_flatten hne.2
    rw [List.flatten_cons, List.length_append, List.length_cons, List.length_cons] at h
    have hg : g = [] := List.length_eq_zero_iff.1 (by omega)
    subst hg
    rw [List.flatten_cons, List.map_append, ← ih hne.2 (by omega)]
    rfl

/-- Each segment is a group of its own exactly when no two that stand side by side merge. -/
theorem splitBy_merges_eq_iff {ss : List Segment} :
    (ss.splitBy merges = ss.map fun s => [s]) ↔ ss.IsChain fun s t => s.merges t = false := by
  rw [List.splitBy_eq_iff, List.isChain_map]
  constructor
  · rintro ⟨-, -, -, hsep⟩
    exact hsep.imp fun s t ⟨_, _, hst⟩ => hst
  · intro hsep
    refine ⟨?_, by simp, by simp, ?_⟩
    · rw [← List.flatMap_def, List.flatMap_singleton']
    · exact hsep.imp fun s t hst => ⟨List.cons_ne_nil s [], List.cons_ne_nil t [], hst⟩

end Groups

/-! ### There and back -/

namespace SnakeKey

open Segment

variable (k : SnakeKey)

theorem not_mem_segments : ∀ w ∈ k.segments, '_' ∉ w := by
  intro w hw hmem
  obtain ⟨s, -, rfl⟩ := List.mem_map.1 hw
  exact absurd (s.isLower '_' hmem) (by decide)

theorem pieces_text : Text.pieces '_' k.text.toList = k.segments := by
  rw [text, String.toList_ofList]
  exact Text.pieces_intercalate k.not_mem_segments (List.cons_ne_nil _ _)

/-- The name of a key in camel case is its segments, all but the first raised. -/
theorem camelCase_text :
    camelCase k.text = String.ofList (k.first.letters ++ k.others.flatMap raised) := by
  rw [camelCase, pieces_text, segments, List.map_cons]
  simp only [List.flatMap_map]
  rfl

/-- The words of the name are the first segment and the groups of those that merge. -/
theorem split_camelCase_text :
    split (camelCase k.text) =
      (k.first.letters :: (k.others.splitBy merges).map fun g => g.flatMap raised).map
        String.ofList := by
  have hfirst := word?_of_isLower k.first.isLower k.first.ne_nil (head?_flatMap_raised k.others)
  rw [camelCase_text, split, String.toList_ofList, splitChars_of_word? hfirst,
    splitChars_flatMap_raised]

theorem map_lower_split_camelCase :
    (split (camelCase k.text)).map Text.lower =
      (k.first.letters :: (k.others.splitBy merges).map fun g => g.flatMap letters).map
        String.ofList := by
  rw [split_camelCase_text, List.map_map, List.map_cons, List.map_cons, List.map_map, List.map_map]
  congr 1
  · show Text.lower (String.ofList k.first.letters) = _
    rw [Text.lower_ofList_of_isAscii (Text.isAscii_of_isLower k.first.isLower),
      map_toLower_letters]
  · apply List.map_congr_left
    intro g _
    show Text.lower (String.ofList (g.flatMap raised)) = _
    have hascii : Text.IsAscii (g.flatMap raised) := by
      intro c hc
      obtain ⟨s, -, hc⟩ := List.mem_flatMap.1 hc
      exact s.isAscii_raised c hc
    rw [Text.lower_ofList_of_isAscii hascii, List.map_flatMap]
    simp only [map_toLower_raised]
    rfl

theorem groups_eq_iff :
    ((k.others.splitBy merges).map fun g => g.flatMap letters) = k.others.map letters ↔
      k.Separable := by
  have hseparable : k.Separable ↔ k.others.splitBy merges = k.others.map fun s => [s] := by
    rw [splitBy_merges_eq_iff, Separable]
    simp only [merges, isSingle, Bool.and_eq_false_iff, beq_eq_false_iff_ne, not_and_or]
  rw [hseparable]
  constructor
  · intro h
    have hlength := congrArg List.length h
    rw [List.length_map, List.length_map] at hlength
    -- as many groups as segments, and none is empty
    have hgroups := eq_map_singleton_of_length_le (List.nil_notMem_splitBy merges k.others)
    rw [List.flatten_splitBy] at hgroups
    exact hgroups hlength.ge
  · intro h
    rw [h, List.map_map]
    simp

theorem not_mem_flatMap_letters (g : List Segment) : '_' ∉ g.flatMap letters := by
  intro hmem
  obtain ⟨s, -, hc⟩ := List.mem_flatMap.1 hmem
  exact absurd (s.isLower '_' hc) (by decide)

/-- **The words of the name give the key back exactly when its segments are separable.** -/
theorem intercalate_lower_split_eq_iff :
    "_".intercalate ((split (camelCase k.text)).map Text.lower) = k.text ↔ k.Separable := by
  rw [map_lower_split_camelCase, intercalate_ofList, text, String.ofList_inj, ← k.groups_eq_iff]
  constructor
  · intro h
    have hpieces := congrArg (Text.pieces '_') h
    rw [Text.pieces_intercalate k.not_mem_segments (List.cons_ne_nil _ _),
      Text.pieces_intercalate ?_ (List.cons_ne_nil _ _)] at hpieces
    · exact (List.cons.inj hpieces).2
    · refine List.forall_mem_cons.2 ⟨k.not_mem_segments _ List.mem_cons_self, ?_⟩
      intro w hw
      obtain ⟨g, -, rfl⟩ := List.mem_map.1 hw
      exact not_mem_flatMap_letters g
  · intro h
    rw [h]
    rfl

end SnakeKey

end WorkspaceTemplates.Words

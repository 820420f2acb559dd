/-
  WorkspaceTemplates/Proofs/Token/Pattern.lean
  ============================================
  **Tokens as patterns.**

  A token can be described by a pattern: fixed texts, any number of characters of a
  class, and a run of characters that is the group of the match.  A pattern may match
  at one place in several ways; `ways` gives all of them, longer runs first, and the
  first one counts.  `scan` takes the leftmost match of a text and goes on after it.

  At one place a token can be matched in one way at most, which is the one that
  `matchAt?` reads (`ways_token`).  A scan skips the places inside a match, but no token
  starts there, so it finds what looking at every place finds (`scanFrom_token`): every
  token of the text, once and in order (`mem_occurrencesFrom_iff_in`,
  `pairwise_occurrencesFrom`).  Scanning for tokens with a tag finds those of them
  whose name goes on after the tag, at the same offsets (`occurrencesFrom_eq_filterMap`).
-/
import WorkspaceTemplates.Proofs.Distinct
import WorkspaceTemplates.Proofs.Token.Cut
import Mathlib.Data.List.Pairwise

namespace WorkspaceTemplates

open Text (utf8Length)

/-! ### Patterns -/

/-- A piece of a pattern. -/
inductive Pattern.Piece where
  /-- This text. -/
  | text (t : List Char)
  /-- Any number of characters of a class. -/
  | any (p : Char → Bool)
  /-- At least one character of a class; they are the group of the match. -/
  | group (p : Char → Bool)

/-- Pieces that are matched one after the other. -/
abbrev Pattern := List Pattern.Piece

namespace Pattern

/-- The ways to cut a run of characters of a class off the head of a text, the longest run
    first. -/
def runs (p : Char → Bool) : List Char → List (List Char × List Char)
  | [] => [([], [])]
  | c :: s =>
    if p c then (runs p s).map (fun cut => (c :: cut.1, cut.2)) ++ [([], c :: s)]
    else [([], c :: s)]

/-- The ways to match at the head of a text, the best one first: the group, and the text after the
    match. -/
def ways : Pattern → List Char → List (List Char × List Char)
  | [], s => [([], s)]
  | .text t :: rest, s => (t.isPrefixOf? s).toList.flatMap (ways rest)
  | .any p :: rest, s => (runs p s).flatMap fun cut => ways rest cut.2
  | .group p :: rest, s =>
    (runs p s).flatMap fun cut =>
      if cut.1.isEmpty then [] else (ways rest cut.2).map fun way => (cut.1 ++ way.1, way.2)

/-- The match at the head of a text. -/
def matchAt? (pattern : Pattern) (s : List Char) : Option (List Char × List Char) :=
  (ways pattern s).head?

/-- The matches in a text from left to right, with byte offsets counted from `offset`.  The next one
    is looked for after the last one.  A match that is empty is not counted. -/
def scanFrom (pattern : Pattern) (offset : Nat) (s : List Char) : List Token.Occurrence :=
  match s with
  | [] => []
  | c :: rest =>
    match matchAt? pattern (c :: rest) with
    | some (group, after) =>
      if after.length ≤ rest.length then
        let stop := offset + (utf8Length (c :: rest) - utf8Length after)
        ⟨offset, stop, group⟩ :: scanFrom pattern stop after
      else scanFrom pattern (offset + c.utf8Size) rest
    | none => scanFrom pattern (offset + c.utf8Size) rest
termination_by s.length
decreasing_by
  all_goals simp only [List.length_cons]; omega

/-- The matches in a text. -/
def scan (pattern : Pattern) (s : String) : List Token.Occurrence := scanFrom pattern 0 s.toList

/-- The pattern of the tokens whose names start with a tag; what follows the tag is the group. -/
def token (tag : List Char) : Pattern :=
  [.text Token.opener, .any Text.isBlank, .text tag, .group Token.isNameChar, .text ['>']]

/-! ### One way to match -/

section Ways

variable {β : Type} {p : Char → Bool}

/-- When a run has to be followed by a character outside its class, only the longest one counts. -/
theorem flatMap_runs {f : List Char → List Char → List β}
    (h : ∀ run c s, p c = true → f run (c :: s) = []) (s : List Char) :
    ((runs p s).flatMap fun cut => f cut.1 cut.2) = f (s.takeWhile p) (s.dropWhile p) := by
  induction s generalizing f with
  | nil => simp [runs]
  | cons c s ih =>
    by_cases hc : p c = true
    · have hlonger := @ih (fun run => f (c :: run)) fun run => h (c :: run)
      rw [runs, if_pos hc, List.flatMap_append, List.flatMap_map, List.flatMap_singleton,
        h [] c s hc, List.append_nil, List.takeWhile_cons_of_pos hc, List.dropWhile_cons_of_pos hc]
      exact hlonger
    · rw [runs, if_neg hc, List.flatMap_singleton, List.takeWhile_cons_of_neg hc,
        List.dropWhile_cons_of_neg hc]

/-- A fixed text can be matched in one way at most. -/
theorem ways_text (t : List Char) (rest : Pattern) (s : List Char) :
    ways (.text t :: rest) s = ((t.isPrefixOf? s).map (ways rest)).getD [] := by
  rw [ways]
  cases t.isPrefixOf? s with
  | none => rfl
  | some r => simp

theorem ways_closing_nil : ways [.text ['>']] [] = [] := rfl

theorem ways_closing_cons (c : Char) (s : List Char) :
    ways [.text ['>']] (c :: s) = if c = '>' then [([], s)] else [] := by
  rw [ways_text, Token.isPrefixOf?_cons]
  by_cases hc : c = '>'
  · subst hc
    cases s <;> rfl
  · rw [if_neg hc, if_neg (by simpa using Ne.symm hc)]
    rfl

/-- A name and the closing after it can be matched in one way at most. -/
theorem ways_name (s : List Char) :
    ways [.group Token.isNameChar, .text ['>']] s = (Token.nameAndClose? s).toList := by
  rw [ways]
  rw [flatMap_runs (f := fun run s => if run.isEmpty then [] else
    (ways [.text ['>']] s).map fun way => (run ++ way.1, way.2))]
  · cases hrun : s.takeWhile Token.isNameChar with
    | nil => simp [Token.nameAndClose?, hrun]
    | cons a as =>
      cases hrest : s.dropWhile Token.isNameChar with
      | nil => simp [Token.nameAndClose?, hrun, hrest, ways_closing_nil]
      | cons c r =>
        by_cases hc : c = '>'
        · simp [Token.nameAndClose?, hrun, hrest, ways_closing_cons, hc]
        · simp [Token.nameAndClose?, hrun, hrest, ways_closing_cons, hc]
  · -- no name has the closing in it
    intro run c s hc
    have hclosing : c ≠ '>' := by
      rintro rfl
      exact absurd hc (by decide)
    simp [ways_closing_cons, hclosing]

variable {tag : List Char} (htag : ∀ c ∈ tag, Token.isNameChar c = true)

include htag

theorem ways_tag_of_blank {c : Char} (hc : Text.isBlank c = true) (s : List Char) :
    ways [.text tag, .group Token.isNameChar, .text ['>']] (c :: s) = [] := by
  have hname : Token.isNameChar c = false := by
    rw [Bool.eq_false_iff]
    intro hname
    rw [Token.isBlank_of_isNameChar hname] at hc
    cases hc
  rw [ways_text]
  cases hstarts : tag.isPrefixOf? (c :: s) with
  | none => rfl
  | some r =>
    have hs := Token.isPrefixOf?_eq_some_iff.1 hstarts
    cases tag with
    | nil =>
      subst hs
      simp [ways_name, Token.nameAndClose?, hname]
    | cons a tag =>
      cases hs
      rw [htag _ List.mem_cons_self] at hname
      cases hname

/-- **A token can be matched in one way at most**, the one that is read. -/
theorem ways_token (s : List Char) : ways (token tag) s = (Token.matchAt? tag s).toList := by
  rw [token, ways_text, Token.matchAt?]
  cases Token.opener.isPrefixOf? s with
  | none => rfl
  | some afterOpener =>
    rw [Option.map_some, Option.getD_some, Option.bind_some, ways]
    rw [flatMap_runs (f := fun _ s => ways [.text tag, .group Token.isNameChar, .text ['>']] s)
      (fun _ _ _ hc => ways_tag_of_blank htag hc _), ways_text]
    cases tag.isPrefixOf? (afterOpener.dropWhile Text.isBlank) with
    | none => rfl
    | some r => exact ways_name r

theorem matchAt?_token (s : List Char) : matchAt? (token tag) s = Token.matchAt? tag s := by
  rw [matchAt?, ways_token htag]
  cases Token.matchAt? tag s <;> rfl

end Ways

end Pattern

/-! ### Going on after a match -/

namespace Token

section Scan

variable {tag : List Char} (htag : ∀ c ∈ tag, isNameChar c = true)

include htag

/-- Nothing is found between the start of a token and its end. -/
theorem occurrencesFrom_of_matchAt? {c : Char} {s name after : List Char}
    (h : matchAt? tag (c :: s) = some (name, after)) (offset : Nat) :
    occurrencesFrom tag offset (c :: s) =
      ⟨offset, offset + (utf8Length (c :: s) - utf8Length after), name⟩ ::
        occurrencesFrom tag (offset + (utf8Length (c :: s) - utf8Length after)) after := by
  obtain ⟨-, text, htext, hs⟩ := (matchAt?_eq_some_iff htag).1 h
  obtain ⟨inside, rfl, hinside⟩ := htext.exists_cons
  rw [List.cons_append, List.cons.injEq] at hs
  obtain ⟨rfl, rfl⟩ := hs
  have hstop : offset + '<'.utf8Size + utf8Length inside =
      offset + (utf8Length ('<' :: (inside ++ after)) - utf8Length after) := by
    simp only [Text.utf8Length_append, Text.utf8Length_cons]
    omega
  have hfree : FreeOf tag inside after := freeOf_of_not_mem htag hinside
  rw [occurrencesFrom, h]
  simp only
  rw [occurrencesFrom_append_of_free hfree, hstop]

/-- **A scan loses no token.** -/
theorem scanFrom_token (offset : Nat) (s : List Char) :
    (Pattern.token tag).scanFrom offset s = occurrencesFrom tag offset s := by
  fun_induction Pattern.scanFrom with
  | case1 => rfl
  | case2 offset c rest group after hm hshort stop ih =>
    rw [Pattern.matchAt?_token htag] at hm
    rw [occurrencesFrom_of_matchAt? htag hm, ih]
  | case3 offset c rest group after hm hlong ih =>
    rw [Pattern.matchAt?_token htag] at hm
    have hshort := length_of_matchAt? hm
    rw [List.length_cons] at hshort
    omega
  | case4 offset c rest hm ih =>
    rw [Pattern.matchAt?_token htag] at hm
    rw [occurrencesFrom, hm, ih]

theorem scan_token (s : String) : (Pattern.token tag).scan s = occurrences tag s :=
  scanFrom_token htag 0 s.toList

end Scan

/-! ### Where the tokens of a text stand -/

/-- A token of a text that starts `offset` bytes into a longer one: what stands between its start and
its stop spells its name. -/
def Occurrence.In (offset : Nat) (s : List Char) (o : Occurrence) : Prop :=
  ∃ before text after, s = before ++ (text ++ after) ∧ Spells o.name text ∧
    o.start = offset + utf8Length before ∧ o.stop = o.start + utf8Length text

/-- Of two occurrences, one stops before the other one starts. -/
def Occurrence.Apart (o o' : Occurrence) : Prop := o.stop ≤ o'.start ∨ o'.stop ≤ o.start

instance : Std.Symm Occurrence.Apart := ⟨fun _ _ h => h.symm⟩

section Occurrences

variable {o o' : Occurrence} {offset : Nat} {c : Char} {s : List Char}

theorem Occurrence.In.start_lt_stop (h : o.In offset s) : o.start < o.stop := by
  obtain ⟨before, text, after, -, htext, -, hstop⟩ := h
  obtain ⟨inside, rfl, -⟩ := htext.exists_cons
  have hsize := ('<').utf8Size_pos
  rw [hstop, Text.utf8Length_cons]
  omega

theorem Occurrence.In.offset_le_start (h : o.In offset s) : offset ≤ o.start := by
  obtain ⟨before, text, after, -, -, hstart, -⟩ := h
  omega

theorem Occurrence.not_in_nil : ¬ o.In offset [] := by
  rintro ⟨before, text, after, hs, htext, -⟩
  obtain ⟨inside, rfl, -⟩ := htext.exists_cons
  simp at hs

/-- A token of a text starts with its first character or is one of what follows. -/
theorem Occurrence.in_cons_iff :
    o.In offset (c :: s) ↔
      (∃ after, matchAt? [] (c :: s) = some (o.name, after) ∧ o.start = offset ∧
        o.stop = offset + (utf8Length (c :: s) - utf8Length after)) ∨
      o.In (offset + c.utf8Size) s := by
  constructor
  · rintro ⟨before, text, after, hs, htext, hstart, hstop⟩
    cases before with
    | nil =>
      rw [List.nil_append] at hs
      rw [hs, Text.utf8Length_append]
      refine .inl ⟨after, htext.matchAt?_append after, by simpa using hstart, ?_⟩
      rw [hstop, hstart, Text.utf8Length_nil]
      omega
    | cons b before =>
      rw [List.cons_append, List.cons.injEq] at hs
      obtain ⟨rfl, rfl⟩ := hs
      refine .inr ⟨before, text, after, rfl, htext, ?_, hstop⟩
      rw [hstart, Text.utf8Length_cons]
      omega
  · rintro (⟨after, hm, hstart, hstop⟩ | ⟨before, text, after, rfl, htext, hstart, hstop⟩)
    · obtain ⟨text, htext, hs⟩ := matchAt?_nil_eq_some_iff.1 hm
      refine ⟨[], text, after, hs, htext, by simpa using hstart, ?_⟩
      rw [hstop, hs, Text.utf8Length_append, hstart]
      omega
    · refine ⟨c :: before, text, after, rfl, htext, ?_, hstop⟩
      rw [hstart, Text.utf8Length_cons]
      omega

/-- **The tokens that are found are those of the text.** -/
theorem mem_occurrencesFrom_iff_in : o ∈ occurrencesFrom [] offset s ↔ o.In offset s := by
  induction s generalizing offset with
  | nil => exact iff_of_false List.not_mem_nil Occurrence.not_in_nil
  | cons c s ih =>
    rw [Occurrence.in_cons_iff, ← ih, occurrencesFrom]
    cases hm : matchAt? [] (c :: s) with
    | none => simp
    | some found =>
      obtain ⟨start, stop, name⟩ := o
      simp only [List.mem_cons, Occurrence.mk.injEq, Option.some.injEq, Prod.ext_iff]
      constructor
      · rintro (⟨rfl, rfl, rfl⟩ | hlater)
        · exact .inl ⟨found.2, ⟨rfl, rfl⟩, rfl, rfl⟩
        · exact .inr hlater
      · rintro (⟨after, ⟨rfl, rfl⟩, rfl, rfl⟩ | hlater)
        · exact .inl ⟨rfl, rfl, rfl⟩
        · exact .inr hlater

/-- Tokens are found in order, and none reaches into the next one. -/
theorem pairwise_occurrencesFrom (offset : Nat) (s : List Char) :
    (occurrencesFrom [] offset s).Pairwise fun o o' => o.stop ≤ o'.start := by
  obtain ⟨slots, tail, hcut⟩ := exists_cut s
  induction hcut generalizing offset with
  | plain hfree =>
    rw [(Cut.plain hfree).occurrencesFrom_eq]
    exact List.Pairwise.nil
  | slot hfree htext hcut ih =>
    rw [occurrencesFrom_append_of_free hfree, occurrencesFrom_text_append htext,
      List.pairwise_cons]
    refine ⟨?_, ih _⟩
    intro o ho
    exact (mem_occurrencesFrom_iff_in.1 ho).offset_le_start

/-- Two tokens of a text are one, or they are apart. -/
theorem Occurrence.In.apart (h : o.In offset s) (h' : o'.In offset s) (hne : o ≠ o') :
    o.Apart o' := by
  have hdisjoint : (occurrencesFrom [] offset s).Pairwise Occurrence.Apart :=
    (pairwise_occurrencesFrom offset s).imp fun hle => .inl hle
  exact hdisjoint.forall (mem_occurrencesFrom_iff_in.2 h) (mem_occurrencesFrom_iff_in.2 h') hne

theorem Occurrence.In.eq_of_start_eq (h : o.In offset s) (h' : o'.In offset s)
    (hstart : o.start = o'.start) : o = o' := by
  by_contra hne
  have hlt := h.start_lt_stop
  have hlt' := h'.start_lt_stop
  rcases h.apart h' hne with hle | hle <;> omega

end Occurrences

/-! ### Tokens with a tag -/

/-- The occurrence of what the name of a token goes on with after a tag, if it does so. -/
def Occurrence.afterTag? (tag : List Char) (o : Occurrence) : Option Occurrence :=
  match tag.isPrefixOf? o.name with
  | some (c :: name) => some ⟨o.start, o.stop, c :: name⟩
  | _ => none

theorem Occurrence.afterTag?_eq_some_iff {tag : List Char} {o o' : Occurrence} :
    o.afterTag? tag = some o' ↔
      o'.name ≠ [] ∧ o = ⟨o'.start, o'.stop, tag ++ o'.name⟩ := by
  obtain ⟨start, stop, name⟩ := o
  obtain ⟨start', stop', name'⟩ := o'
  have hstarts := @isPrefixOf?_eq_some_iff tag name
  simp only [afterTag?]
  constructor
  · intro h
    split at h
    · rename_i c rest hrest
      cases h
      rw [hstarts.1 hrest]
      exact ⟨List.cons_ne_nil c rest, rfl⟩
    · cases h
  · rintro ⟨hne, h⟩
    cases h
    obtain ⟨c, rest, rfl⟩ := List.exists_cons_of_ne_nil hne
    rw [hstarts.2 rfl]

section Tag

variable {tag : List Char} (htag : ∀ c ∈ tag, isNameChar c = true)

include htag

/-- **The tokens with a tag are some of all tokens**, at the offsets that they have among these. -/
theorem occurrencesFrom_eq_filterMap (offset : Nat) (s : List Char) :
    occurrencesFrom tag offset s =
      (occurrencesFrom [] offset s).filterMap (Occurrence.afterTag? tag) := by
  induction s generalizing offset with
  | nil => rfl
  | cons c s ih =>
    rw [occurrencesFrom, occurrencesFrom, ih]
    cases hm : matchAt? tag (c :: s) with
    | some found =>
      obtain ⟨hne, hall⟩ := (matchAt?_eq_some_iff_nil htag).1 hm
      have hafter : Occurrence.afterTag? tag
          ⟨offset, offset + (utf8Length (c :: s) - utf8Length found.2), tag ++ found.1⟩ =
            some ⟨offset, offset + (utf8Length (c :: s) - utf8Length found.2), found.1⟩ :=
        Occurrence.afterTag?_eq_some_iff.2 ⟨hne, rfl⟩
      rw [hall]
      simp only
      rw [List.filterMap_cons_some hafter]
    | none =>
      cases hall : matchAt? [] (c :: s) with
      | none => rfl
      | some found =>
        simp only
        rw [List.filterMap_cons_none]
        rw [Option.eq_none_iff_forall_ne_some]
        intro o ho
        obtain ⟨hne, hfound⟩ := Occurrence.afterTag?_eq_some_iff.1 ho
        rw [Occurrence.mk.injEq] at hfound
        have hsome : matchAt? tag (c :: s) = some (o.name, found.2) := by
          rw [matchAt?_eq_some_iff_nil htag, hall, ← hfound.2.2]
          exact ⟨hne, rfl⟩
        rw [hm] at hsome
        cases hsome

theorem mem_occurrencesFrom_tag_iff {o : Occurrence} {offset : Nat} {s : List Char} :
    o ∈ occurrencesFrom tag offset s ↔
      o.name ≠ [] ∧ Occurrence.In offset s ⟨o.start, o.stop, tag ++ o.name⟩ := by
  rw [occurrencesFrom_eq_filterMap htag, List.mem_filterMap]
  simp only [Occurrence.afterTag?_eq_some_iff, mem_occurrencesFrom_iff_in]
  constructor
  · rintro ⟨_, hin, hne, rfl⟩
    exact ⟨hne, hin⟩
  · rintro ⟨hne, hin⟩
    exact ⟨_, hin, hne, rfl⟩

end Tag

/-- No token both opens and closes a region. -/
theorem apart_of_mem_tags {o o' : Occurrence} {offset : Nat} {s : List Char}
    (h : o ∈ occurrencesFrom ifTag offset s) (h' : o' ∈ occurrencesFrom endifTag offset s) :
    o.Apart o' := by
  obtain ⟨-, hin⟩ := (mem_occurrencesFrom_tag_iff ifTag_isNameChar).1 h
  obtain ⟨-, hin'⟩ := (mem_occurrencesFrom_tag_iff endifTag_isNameChar).1 h'
  have hne : (⟨o.start, o.stop, ifTag ++ o.name⟩ : Occurrence) ≠
      ⟨o'.start, o'.stop, endifTag ++ o'.name⟩ := by
    intro heq
    -- the first letters of the tags are different
    have hhead : (ifTag ++ o.name).head? = (endifTag ++ o'.name).head? :=
      congrArg (fun o => o.name.head?) heq
    have hopening : ifTag.head? = some 'I' := by decide
    have hclosing : endifTag.head? = some 'E' := by decide
    rw [List.head?_append, List.head?_append, hopening, hclosing,
      Option.some_or, Option.some_or] at hhead
    exact absurd hhead (by decide)
  have hapart := hin.apart hin' hne
  exact hapart

/-! ### All scans of a text -/

/-- **All scans see the same tokens.**  Scanning for tokens finds what stands in a text as a token
and nothing else, in order and without overlap; scanning for those that open or close a region finds
the same tokens again, by their names, and no token twice; and the names of the text are listed in
the order in which they appear first. -/
theorem scan_tokens (s : String) :
    (∀ tag ∈ [[], ifTag, endifTag], (Pattern.token tag).scan s = occurrences tag s) ∧
    (∀ o, o ∈ occurrences [] s ↔ o.In 0 s.toList) ∧
    ((occurrences [] s).Pairwise fun o o' => o.stop ≤ o'.start) ∧
    (∀ o o' : Occurrence, o.In 0 s.toList → o'.In 0 s.toList → o.start = o'.start → o = o') ∧
    occurrences ifTag s = (occurrences [] s).filterMap (Occurrence.afterTag? ifTag) ∧
    occurrences endifTag s = (occurrences [] s).filterMap (Occurrence.afterTag? endifTag) ∧
    (∀ o ∈ occurrences ifTag s, ∀ o' ∈ occurrences endifTag s, o.Apart o') ∧
    let all := (occurrences [] s).map fun o => String.ofList o.name
    (names s).Nodup ∧ (∀ n, n ∈ names s ↔ n ∈ all) ∧
      (names s).Pairwise fun m n => all.idxOf m < all.idxOf n := by
  refine ⟨?_, fun _ => mem_occurrencesFrom_iff_in, pairwise_occurrencesFrom 0 _,
    fun _ _ h h' => h.eq_of_start_eq h', occurrencesFrom_eq_filterMap ifTag_isNameChar 0 _,
    occurrencesFrom_eq_filterMap endifTag_isNameChar 0 _, fun _ h _ h' => apart_of_mem_tags h h',
    nodup_eraseDups _, fun _ => List.mem_eraseDups, pairwise_idxOf_eraseDups _⟩
  have hnames : ∀ tag ∈ [[], ifTag, endifTag], ∀ c ∈ tag, isNameChar c = true := by
    simp only [List.forall_mem_cons]
    exact ⟨nofun, ifTag_isNameChar, endifTag_isNameChar, nofun⟩
  exact fun tag htag => scan_token (hnames tag htag) s

/-- A token may start inside what looks like the start of another one. -/
example : occurrences [] "<PLACEHOLDER:<PLACEHOLDER:\u00a0A>" = [⟨13, 30, ['A']⟩] := by
  decide +kernel

end Token

end WorkspaceTemplates

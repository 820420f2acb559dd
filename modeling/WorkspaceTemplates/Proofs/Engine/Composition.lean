/-
  WorkspaceTemplates/Proofs/Engine/Composition.lean
  =================================================
  **Rendering a template in two parts.**

  Looking for the end of a region goes arbitrarily far ahead, so a template cannot be
  cut just anywhere.  It can be cut where no token is broken off and where no region
  stands open that the second part closes.  Each pass of rendering is then done part
  by part: nothing that a pass reads in the first part reaches over the cut, and what
  the pass leaves of the first part does not end in an unfinished token either, so the
  next pass may be cut at the same place.
-/
import WorkspaceTemplates.Proofs.Engine.Substitution
import WorkspaceTemplates.Proofs.Region.Piece

namespace WorkspaceTemplates

/-! ### Tokens of two texts that stand together -/

namespace Token

variable {tag s t : List Char}

/-- The first one of two texts that are spaced together is spaced. -/
theorem Spaced.of_append (h : Spaced (s ++ t)) : Spaced s := by
  rintro p q rfl hq
  obtain ⟨⟨name, rest⟩, hm⟩ := Option.isSome_iff_exists.1 hq
  refine h p (q ++ t) (List.append_assoc p q t) ?_
  rw [matchAt?_append_of_eq_some hm t]
  rfl

theorem not_openEnd_of_suffix (h : ¬ OpenEnd t) (hs : s <:+ t) : ¬ OpenEnd s := by
  obtain ⟨p, rfl⟩ := hs
  exact fun hopen => h (hopen.append_left p)

/-- Replacements in a spaced text leave no unfinished token at its end. -/
theorem not_openEnd_of_replacements {P : List Char → Prop} (hs : Spaced s)
    (h : ¬ OpenEnd s) (hst : Replacements P s t) : ¬ OpenEnd t := by
  induction hst with
  | refl => exact h
  | tail hsteps hstep ih =>
    obtain ⟨p, ht, hP, x, hv, q⟩ := hstep
    have hspaced := hs.of_replacements hsteps
    rw [List.append_assoc] at hspaced
    intro hopen
    rcases openEnd_append hopen with hopen | hopen
    · exact hspaced.not_openEnd ht hopen
    · rcases openEnd_append hopen with hopen | hopen
      · exact not_openEnd_of_not_mem hv hopen
      · exact ih ((hopen.append_left _).append_left p)

/-- Where nothing is broken off, a token is read in the first text as if it stood alone. -/
theorem matchAt?_append_of_not_openEnd (htag : ∀ c ∈ tag, isNameChar c = true) (hne : s ≠ [])
    (h : ¬ OpenEnd s) :
    matchAt? tag (s ++ t) = (matchAt? tag s).map fun p => (p.1, p.2 ++ t) := by
  have hun : ¬ Unfinished s := not_unfinished_of_not_openEnd h (List.suffix_refl s)
  ext ⟨name, rest⟩
  rw [Option.map_eq_some_iff, matchAt?_eq_some_iff_nil htag, matchAt?_append_iff hne hun]
  constructor
  · rintro ⟨hname, r, hm, rfl⟩
    exact ⟨(name, r), (matchAt?_eq_some_iff_nil htag).2 ⟨hname, hm⟩, rfl⟩
  · rintro ⟨⟨n, r⟩, hm, heq⟩
    cases heq
    obtain ⟨hname, hm⟩ := (matchAt?_eq_some_iff_nil htag).1 hm
    exact ⟨hname, r, hm, rfl⟩

/-- The text after a token that is read is an end of the text. -/
theorem suffix_of_matchAt? (htag : ∀ c ∈ tag, isNameChar c = true) {name rest : List Char}
    (h : matchAt? tag s = some (name, rest)) : rest <:+ s := by
  obtain ⟨-, text, -, rfl⟩ := (matchAt?_eq_some_iff htag).1 h
  exact List.suffix_append text rest

/-- Tokens are replaced part by part. -/
theorem replaceAll_append (htag : ∀ c ∈ tag, isNameChar c = true) (f : List Char → List Char)
    (h : ¬ OpenEnd s) :
    replaceAll tag f (s ++ t) = replaceAll tag f s ++ replaceAll tag f t := by
  fun_induction replaceAll tag f s with
  | case1 => rfl
  | case2 c rest name after hm ih =>
    have hjoined := matchAt?_append_of_not_openEnd (t := t) htag (List.cons_ne_nil c rest) h
    rw [hm, Option.map_some, List.cons_append] at hjoined
    have hafter := not_openEnd_of_suffix h (suffix_of_matchAt? htag hm)
    rw [List.cons_append, replaceAll_of_matchAt? hjoined, ih hafter, List.append_assoc]
  | case3 c rest hm ih =>
    have hjoined := matchAt?_append_of_not_openEnd (t := t) htag (List.cons_ne_nil c rest) h
    rw [hm, Option.map_none, List.cons_append] at hjoined
    have hrest := not_openEnd_of_suffix h (List.suffix_cons c rest)
    rw [List.cons_append, replaceAll_of_matchAt?_eq_none hjoined, ih hrest, List.cons_append]

theorem map_name_occurrencesFrom (offset offset' : Nat) (s : List Char) :
    (occurrencesFrom [] offset s).map Occurrence.name =
      (occurrencesFrom [] offset' s).map Occurrence.name := by
  obtain ⟨slots, tail, hcut⟩ := exists_cut s
  rw [hcut.occurrencesFrom_eq, hcut.occurrencesFrom_eq, map_name_placed, map_name_placed]

theorem map_name_occurrencesFrom_append (h : ¬ OpenEnd s) (offset : Nat) :
    (occurrencesFrom [] offset (s ++ t)).map Occurrence.name =
      (occurrencesFrom [] offset s).map Occurrence.name ++
        (occurrencesFrom [] offset t).map Occurrence.name := by
  induction s generalizing offset with
  | nil => rfl
  | cons c s ih =>
    have htag : ∀ c ∈ ([] : List Char), isNameChar c = true := by simp
    have hjoined := matchAt?_append_of_not_openEnd (t := t) htag (List.cons_ne_nil c s) h
    have hrest := ih (not_openEnd_of_suffix h (List.suffix_cons c s)) (offset + c.utf8Size)
    rw [map_name_occurrencesFrom _ offset t] at hrest
    rw [List.cons_append] at hjoined ⊢
    rw [occurrencesFrom, occurrencesFrom, hjoined]
    cases matchAt? [] (c :: s) with
    | none => exact hrest
    | some p => exact congrArg (p.1 :: ·) hrest

/-- The names of two texts are those of the first and then those of the second. -/
theorem allNames_append (h : ¬ OpenEnd s) : allNames (s ++ t) = allNames s ++ allNames t := by
  have hnames := congrArg (List.map String.ofList) (map_name_occurrencesFrom_append (t := t) h 0)
  rw [List.map_append, List.map_map, List.map_map, List.map_map] at hnames
  exact hnames

end Token

/-! ### Regions of two texts that stand together -/

namespace Region

open Token

variable {a b s t : List Char}

/-- Every region that opens in `a`, and for which `b` has a closing marker, is closed in `a`. -/
def ClosedBefore (a b : List Char) : Prop :=
  ∀ p q name rest, a = p ++ q → Token.matchAt? ifTag q = some (name, rest) →
    Occurs (endifTag ++ name) b → Occurs (endifTag ++ name) rest

instance (a b : List Char) : Decidable (ClosedBefore a b) :=
  decidable_of_iff
    (∀ i < a.length + 1, ∀ m ∈ Token.matchAt? ifTag (a.drop i),
      String.ofList (endifTag ++ m.1) ∈ Token.names (String.ofList b) →
        String.ofList (endifTag ++ m.1) ∈ Token.names (String.ofList m.2)) <| by
    simp only [mem_names_iff, String.toList_ofList]
    constructor
    · rintro h p q name rest rfl hm
      have hi := h p.length (by rw [List.length_append]; omega)
      rw [List.drop_left] at hi
      exact hi (name, rest) hm
    · intro h i _ m hm
      exact h _ _ m.1 m.2 (List.take_append_drop i a).symm hm

theorem ClosedBefore.of_suffix (h : ClosedBefore a b) (hs : s <:+ a) : ClosedBefore s b := by
  obtain ⟨p, rfl⟩ := hs
  rintro p' q name rest rfl hm
  exact h (p ++ p') q name rest (List.append_assoc p p' q).symm hm

/-- A closing token of a name is found in every text that has one. -/
theorem untilClosed?_eq_none_iff {name : List Char} (hname : name ≠ []) :
    untilClosed? name s = none ↔ ¬ Occurs (endifTag ++ name) s := by
  induction s with
  | nil => simp [untilClosed?, not_occurs_nil]
  | cons c s ih =>
    have hhead : (∃ rest, Token.matchAt? [] (c :: s) = some (endifTag ++ name, rest)) ↔
        ∃ rest, Token.matchAt? endifTag (c :: s) = some (name, rest) := by
      simp only [matchAt?_eq_some_iff_nil endifTag_isNameChar, hname, ne_eq, not_false_eq_true,
        true_and]
    rw [occurs_cons_iff, hhead, untilClosed?]
    cases hm : Token.matchAt? endifTag (c :: s) with
    | none => simpa using ih
    | some p =>
      obtain ⟨n, after⟩ := p
      by_cases hn : n = name
      · simp [hn]
      · simpa [hn] using ih

/-- The nearest closing token is looked for in the first text, and then in the second. -/
theorem untilClosed?_append_of_not_openEnd {name : List Char} (h : ¬ OpenEnd s) :
    untilClosed? name (s ++ t) =
      ((untilClosed? name s).map fun p => (p.1, p.2 ++ t)).or
        ((untilClosed? name t).map fun p => (s ++ p.1, p.2)) := by
  induction s with
  | nil => simp [untilClosed?]
  | cons c s ih =>
    have hjoined := matchAt?_append_of_not_openEnd (t := t) endifTag_isNameChar
      (List.cons_ne_nil c s) h
    have hrest := ih (not_openEnd_of_suffix h (List.suffix_cons c s))
    have hlater := congrArg (Option.map fun p => (c :: p.1, p.2)) hrest
    rw [Option.map_or, Option.map_map, Option.map_map] at hlater
    rw [List.cons_append] at hjoined ⊢
    rw [untilClosed?, untilClosed?, hjoined]
    cases Token.matchAt? endifTag (c :: s) with
    | none =>
      rw [Option.map_none, Option.map_map]
      exact hlater
    | some p =>
      simp only [Option.map_some]
      split
      · rfl
      · rw [Option.map_map]
        exact hlater

/-- A region that is read in the first text is read there when the second one follows, and no
other is. -/
theorem matchAt?_append_of_closedBefore (hne : s ≠ []) (h : ¬ OpenEnd s)
    (hclosed : ClosedBefore s t) :
    matchAt? (s ++ t) = (matchAt? s).map fun r => (r.1, r.2.1, r.2.2 ++ t) := by
  rw [matchAt?, matchAt?, matchAt?_append_of_not_openEnd ifTag_isNameChar hne h]
  cases hm : Token.matchAt? ifTag s with
  | none => rfl
  | some p =>
    obtain ⟨name, inside⟩ := p
    have hname : name ≠ [] := ((matchAt?_eq_some_iff_nil ifTag_isNameChar).1 hm).1
    have hinside := not_openEnd_of_suffix h (suffix_of_matchAt? ifTag_isNameChar hm)
    simp only [Option.map_some, Option.bind_some]
    rw [untilClosed?_append_of_not_openEnd hinside]
    cases hu : untilClosed? name inside with
    | some q => rfl
    | none =>
      -- the region stays open in the first text, so the second one does not close it
      have hopen : ¬ Occurs (endifTag ++ name) inside := (untilClosed?_eq_none_iff hname).1 hu
      have hnone : untilClosed? name t = none := by
        rw [untilClosed?_eq_none_iff hname]
        exact fun hoccurs => hopen (hclosed [] s name inside rfl hm hoccurs)
      rw [hnone]
      rfl

/-- The text after a region that is read is an end of the text. -/
theorem suffix_of_region {name body after : List Char}
    (h : matchAt? s = some (name, body, after)) : after <:+ s := by
  obtain ⟨-, opening, close, -, -, rfl⟩ := matchAt?_spec h
  exact ⟨opening ++ (body ++ close), by simp⟩

theorem resolve_append_of_closedBefore (keep : String → Bool) (h : ¬ OpenEnd s)
    (hclosed : ClosedBefore s t) : resolve keep (s ++ t) = resolve keep s ++ resolve keep t := by
  fun_induction resolve keep s with
  | case1 => rfl
  | case2 c rest name body after hm ih =>
    have hjoined := matchAt?_append_of_closedBefore (List.cons_ne_nil c rest) h hclosed
    rw [hm, Option.map_some] at hjoined
    have hafter := suffix_of_region hm
    rw [resolve_of_matchAt? hjoined, ih (not_openEnd_of_suffix h hafter) (hclosed.of_suffix hafter),
      List.append_assoc]
  | case3 c rest hm ih =>
    have hjoined := matchAt?_append_of_closedBefore (List.cons_ne_nil c rest) h hclosed
    rw [hm, Option.map_none, List.cons_append] at hjoined
    have hrest := List.suffix_cons c rest
    rw [List.cons_append, resolve_cons_of_matchAt? hjoined,
      ih (not_openEnd_of_suffix h hrest) (hclosed.of_suffix hrest), List.cons_append]

/-- Conditional processing of a text that can be cut is done part by part. -/
theorem process_append (ctx : Context) {a b : String} (hspaced : Spaced (a.toList ++ b.toList))
    (hend : ¬ OpenEnd a.toList) (hclosed : ClosedBefore a.toList b.toList) :
    process (a ++ b) ctx = process a ctx ++ process b ctx := by
  -- the second pass is cut where the first one has left the end of `a`
  have hresolved := not_openEnd_of_replacements hspaced.of_append hend
    (replacements_resolve (Condition.evaluate ctx) a.toList)
  rw [process, String.toList_append, resolve_append_of_closedBefore _ hend hclosed, stripChars,
    replaceAll_append ifTag_isNameChar _ hresolved, String.ofList_append]
  rfl

end Region

/-! ### Rendering -/

namespace Engine

open Token

variable (e : Engine) (completed : Context)

/-- The output of two texts is put together; a name that the first one lacks is reported once. -/
theorem fillIn_append {s t : String} (h : ¬ OpenEnd s.toList) :
    e.fillIn completed (s ++ t) =
      ⟨(e.fillIn completed s).output ++ (e.fillIn completed t).output,
        (e.fillIn completed s).missing ++ (e.fillIn completed t).missing.filter fun name =>
          !(e.fillIn completed s).missing.contains name⟩ := by
  have htag : ∀ c ∈ ([] : List Char), isNameChar c = true := by simp
  have houtput := replaceAll_append (t := t.toList) htag (e.substitute completed) h
  have hnames := allNames_append (t := t.toList) h
  rw [fillIn, String.toList_append, houtput, String.ofList_append, Token.names,
    String.toList_append, hnames, filter_eraseDups_append]
  rfl

/-- **Rendering is compositional.**  A template is rendered part by part where it can be cut: no
token of it follows an unfinished one, the first part ends in none, and the second part closes no
region that the first part leaves open. -/
theorem render_append (e : Engine) (ctx : Context) (a b : String) (hspaced : Spaced (a ++ b).toList)
    (hend : ¬ OpenEnd a.toList) (hclosed : Region.ClosedBefore a.toList b.toList) :
    (e.render (a ++ b) ctx).output = (e.render a ctx).output ++ (e.render b ctx).output ∧
      (e.render (a ++ b) ctx).missing =
        (e.render a ctx).missing ++
          (e.render b ctx).missing.filter fun name => !(e.render a ctx).missing.contains name := by
  rw [String.toList_append] at hspaced
  have hprocessed := not_openEnd_of_replacements hspaced.of_append hend
    (Region.replacements_process a (e.normalize ctx))
  rw [render, Region.process_append _ hspaced hend hclosed, fillIn_append e _ hprocessed]
  exact ⟨rfl, rfl⟩

/-- A first part with an opening marker in the body of a region and a name without a value; a
second part that opens the same condition again, has a stray closing marker, and lacks that name
too. -/
theorem render_append_broken_regions :
    let e : Engine := ⟨[], []⟩
    let a := "<PLACEHOLDER:IF_GO>a<PLACEHOLDER:IF_X><PLACEHOLDER:ENDIF_GO>> <PLACEHOLDER:NO>"
    let b := "PLACEHOLDER:IF_X><PLACEHOLDER:IF_X><PLACEHOLDER:ENDIF_GO><PLACEHOLDER:NO><PLACE"
    let ctx : Context := Dictionary.ofList [("primary_language", .text "go")]
    Spaced (a ++ b).toList ∧ ¬ OpenEnd a.toList ∧ Region.ClosedBefore a.toList b.toList ∧
      (e.render (a ++ b) ctx).output = (e.render a ctx).output ++ (e.render b ctx).output ∧
        (e.render (a ++ b) ctx).missing =
          (e.render a ctx).missing ++
            (e.render b ctx).missing.filter fun name =>
              !(e.render a ctx).missing.contains name := by
  intro e a b ctx
  have hspaced : Spaced (a ++ b).toList := by decide +kernel
  have hend : ¬ OpenEnd a.toList := by decide +kernel
  have hclosed : Region.ClosedBefore a.toList b.toList := by decide +kernel
  exact ⟨hspaced, hend, hclosed, render_append e ctx a b hspaced hend hclosed⟩

end Engine

end WorkspaceTemplates

/-
  WorkspaceTemplates/Proofs/Region/Respelled.lean
  ===============================================
  **The case of condition names in regions.**

  Whether a condition holds does not depend on how its name is written.  Which closing
  marker belongs to an opening one does: the names of both have to be the same letter by
  letter.  So conditional processing makes respelled texts of respelled texts as long as
  every region is closed at the same marker (`extents`).
-/
import WorkspaceTemplates.Proofs.Region.Piece
import WorkspaceTemplates.Proofs.Token.Respelled

namespace WorkspaceTemplates

/-- A condition is the same whichever way its name is written. -/
theorem Condition.evaluate_of_sameLetters {name name' : List Char}
    (hname : ∀ c ∈ name, Token.isNameChar c = true) (h : Token.SameLetters name name')
    (ctx : Context) :
    evaluate ctx (String.ofList name) = evaluate ctx (String.ofList name') := by
  have hascii : ∀ {n : List Char}, (∀ c ∈ n, Token.isNameChar c = true) → Text.IsAscii n :=
    fun hn c hc => (Token.toNat_of_isNameChar (hn c hc)).2
  rw [evaluate, evaluate, ofName?, ofName?, Text.lower_ofList_of_isAscii (hascii hname),
    Text.lower_ofList_of_isAscii (hascii (h.isNameChar hname)), h]

namespace Region

open Token

/-! ### The pieces of a respelled text -/

/-- Two spellings of a piece. -/
inductive Piece.Respelled : Piece → Piece → Prop where
  | literal (text : List Char) : Respelled (.literal text) (.literal text)
  | opening {name name' text text' : List Char} (h : Recased ifTag name name' text text') :
      Respelled (.opening name text) (.opening name' text')
  | closing {name name' text text' : List Char} (h : Recased endifTag name name' text text') :
      Respelled (.closing name text) (.closing name' text')

theorem Piece.Respelled.isOpening {p p' : Piece} (h : p.Respelled p') :
    p'.isOpening = p.isOpening := by
  cases h <;> rfl

theorem Piece.Respelled.text {p p' : Piece} (h : p.Respelled p') :
    Token.Respelled p.text p'.text := by
  cases h with
  | literal text => exact .refl text
  | @opening name name' text text' h =>
    have hmarker := Token.Respelled.marker h .nil
    rw [List.append_nil, List.append_nil] at hmarker
    exact hmarker
  | @closing name name' text text' h =>
    have hmarker := Token.Respelled.marker h .nil
    rw [List.append_nil, List.append_nil] at hmarker
    exact hmarker

theorem respelled_textOf {ps ps' : List Piece} (h : List.Forall₂ Piece.Respelled ps ps') :
    Token.Respelled (textOf ps) (textOf ps') := by
  induction h with
  | nil => exact .nil
  | cons hp _ ih => exact hp.text.append ih

theorem respelled_withoutOpenings {ps ps' : List Piece}
    (h : List.Forall₂ Piece.Respelled ps ps') :
    Token.Respelled (withoutOpenings ps) (withoutOpenings ps') := by
  apply respelled_textOf
  induction h with
  | nil => exact .nil
  | @cons p p' ps ps' hp _ ih =>
    rw [List.filter_cons, List.filter_cons, hp.isOpening]
    split
    · exact .cons hp ih
    · exact ih

section Marker

variable {name text s : List Char}

theorem marker?_of_opening (hne : name ≠ []) (htext : Spells (ifTag ++ name) text) :
    marker? (text ++ s) = some (.opening name text, s) := by
  have hm : Token.matchAt? ifTag (text ++ s) = some (name, s) :=
    (Token.matchAt?_eq_some_iff ifTag_isNameChar).2 ⟨hne, text, htext, rfl⟩
  simp [marker?, hm]

theorem marker?_of_closing (hne : name ≠ []) (htext : Spells (endifTag ++ name) text) :
    marker? (text ++ s) = some (.closing name text, s) := by
  have hif : Token.matchAt? ifTag (text ++ s) = none := by
    by_contra hsome
    obtain ⟨⟨n, rest⟩, hm⟩ := Option.ne_none_iff_exists'.1 hsome
    obtain ⟨-, hm⟩ := (matchAt?_eq_some_iff_nil ifTag_isNameChar).1 hm
    rw [htext.matchAt?_append s, Option.some.injEq, Prod.mk.injEq] at hm
    cases (List.cons.inj hm.1).1
  have hm : Token.matchAt? endifTag (text ++ s) = some (name, s) :=
    (Token.matchAt?_eq_some_iff endifTag_isNameChar).2 ⟨hne, text, htext, rfl⟩
  simp [marker?, hif, hm]

theorem cut_of_marker? {m : Piece} (h : marker? text = some (m, s)) : cut text = m :: cut s := by
  cases text with
  | nil => cases h
  | cons c rest =>
    rw [cut]
    split
    · rename_i hm
      rw [h] at hm
      cases hm
      rfl
    · rename_i hm
      rw [h] at hm
      cases hm

theorem cut_of_marker?_eq_none {c : Char} (h : marker? (c :: s) = none) :
    cut (c :: s) = lengthen c (cut s) := by
  rw [cut]
  split
  · rename_i hm
    rw [h] at hm
    cases hm
  · rfl

end Marker

theorem respelled_of_marker? {s s' after : List Char} {m : Piece} (h : Token.Respelled s s')
    (hm : marker? s = some (m, after)) :
    ∃ m' after', marker? s' = some (m', after') ∧ m.Respelled m' ∧
      Token.Respelled after after' := by
  obtain ⟨rfl, hproper, hkind⟩ := marker?_spec hm
  -- an opening marker is respelled as an opening one, and a closing marker as a closing one
  rcases hkind with ⟨name, heq, -⟩ | ⟨name, heq, -⟩
  · rw [heq] at hproper ⊢
    obtain ⟨x, text', t, rfl, hrewritten, ht⟩ := h.of_spells hproper.2
    obtain ⟨name', rfl, hrecased⟩ := hrewritten.recased_of_isTag (.inl rfl) hproper.1
    exact ⟨_, t, marker?_of_opening hrecased.symm.ne_nil hrewritten.spells.2, .opening hrecased, ht⟩
  · rw [heq] at hproper ⊢
    obtain ⟨x, text', t, rfl, hrewritten, ht⟩ := h.of_spells hproper.2
    obtain ⟨name', rfl, hrecased⟩ := hrewritten.recased_of_isTag (.inr rfl) hproper.1
    exact ⟨_, t, marker?_of_closing hrecased.symm.ne_nil hrewritten.spells.2, .closing hrecased, ht⟩

theorem marker?_eq_none_of_respelled {s s' : List Char} (h : Token.Respelled s s')
    (hm : marker? s = none) : marker? s' = none := by
  by_contra hsome
  obtain ⟨⟨m', after'⟩, hm'⟩ := Option.ne_none_iff_exists'.1 hsome
  obtain ⟨m, after, hm'', -⟩ := respelled_of_marker? h.symm hm'
  rw [hm] at hm''
  cases hm''

theorem respelled_lengthen (c : Char) {ps ps' : List Piece}
    (h : List.Forall₂ Piece.Respelled ps ps') :
    List.Forall₂ Piece.Respelled (lengthen c ps) (lengthen c ps') := by
  cases h with
  | nil => exact .cons (.literal [c]) .nil
  | cons hp hps =>
    cases hp with
    | literal text => exact .cons (.literal (c :: text)) hps
    | opening h => exact .cons (.literal [c]) (.cons (.opening h) hps)
    | closing h => exact .cons (.literal [c]) (.cons (.closing h) hps)

theorem respelled_cut {s s' : List Char} (h : Token.Respelled s s') :
    List.Forall₂ Piece.Respelled (cut s) (cut s') := by
  fun_induction cut s generalizing s' with
  | case1 =>
    rw [h.eq_nil, cut]
    exact .nil
  | case2 c rest m after hm ih =>
    obtain ⟨m', after', hm', hp, hafter⟩ := respelled_of_marker? h hm
    rw [cut_of_marker? hm']
    exact .cons hp (ih hafter)
  | case3 c rest hm ih =>
    have hm' := marker?_eq_none_of_respelled h hm
    rcases h.cons_cases with ⟨t, rfl, ht⟩ | ⟨tag, name, name', text, text', r, r', hmarker,
      hs, -, -⟩
    · rw [cut_of_marker?_eq_none hm']
      exact respelled_lengthen c (ih ht)
    · -- a marker that starts here would have been read
      have hspells := hmarker.spells
      rw [hs] at hm
      rcases hmarker.isTag with rfl | rfl
      · rw [marker?_of_opening hmarker.ne_nil hspells] at hm
        cases hm
      · rw [marker?_of_closing hmarker.ne_nil hspells] at hm
        cases hm

/-- **Texts are respelled when their pieces are.** -/
theorem respelled_iff {s s' : List Char} :
    Token.Respelled s s' ↔ List.Forall₂ Piece.Respelled (cut s) (cut s') := by
  constructor
  · exact respelled_cut
  · intro h
    have htext := respelled_textOf h
    rwa [textOf_cut, textOf_cut] at htext

instance : DecidableRel Piece.Respelled := fun p p' =>
  match p, p' with
  | .literal t, .literal t' =>
    decidable_of_iff (t = t') ⟨fun h => h ▸ .literal t, fun h => by cases h; rfl⟩
  | .opening n t, .opening n' t' =>
    decidable_of_iff (Recased ifTag n n' t t') ⟨.opening, fun h => by cases h; assumption⟩
  | .closing n t, .closing n' t' =>
    decidable_of_iff (Recased endifTag n n' t t') ⟨.closing, fun h => by cases h; assumption⟩
  | .literal _, .opening _ _ | .literal _, .closing _ _ | .opening _ _, .literal _
  | .opening _ _, .closing _ _ | .closing _ _, .literal _ | .closing _ _, .opening _ _ =>
    .isFalse fun h => by cases h

instance (s s' : List Char) : Decidable (Token.Respelled s s') :=
  decidable_of_iff' _ respelled_iff

/-! ### Where the regions are closed -/

/-- How many of the pieces that follow come before the marker that closes a piece; none of them
does unless the piece is an opening marker. -/
def Piece.closedAfter? (rest : List Piece) : Piece → Option Nat
  | opening name _ => rest.findIdx? (isClosing name)
  | literal _ | closing _ _ => none

/-- What is made of a piece, and of the body of the region if it opens one. -/
def Piece.resolved (keep : String → Bool) (rest : List Piece) (p : Piece) : List Char :=
  match p, p.closedAfter? rest with
  | opening name _, some i => if keep (String.ofList name) then textOf (rest.take i) else []
  | _, _ => p.text

/-- The regions of some pieces, in order: for every piece that stands in no region, how long the
region is that it opens. -/
def extents (ps : List Piece) : List (Option Nat) :=
  match ps with
  | [] => []
  | p :: rest =>
    p.closedAfter? rest :: extents (rest.drop ((p.closedAfter? rest).elim 0 (· + 1)))
termination_by ps.length
decreasing_by
  simp only [List.length_drop, List.length_cons]
  omega

/-- If an opening and a closing marker belong to one condition, both spell it in the same way. -/
def Piece.Agrees : Piece → Piece → Prop
  | opening name _, closing name' _ => SameLetters name name' → name = name'
  | _, _ => True

instance : DecidableRel Piece.Agrees := fun p p' =>
  match p, p' with
  | .opening _ _, .closing _ _ => inferInstanceAs (Decidable (_ → _))
  | .literal _, _ | .closing _ _, _ | .opening _ _, .literal _ | .opening _ _, .opening _ _ =>
    .isTrue trivial

/-- Every condition is spelled in the same way where it opens and where it closes. -/
def Uniform (ps : List Piece) : Prop := ∀ p ∈ ps, ∀ q ∈ ps, p.Agrees q

instance (ps : List Piece) : Decidable (Uniform ps) :=
  inferInstanceAs (Decidable (∀ p ∈ ps, ∀ q ∈ ps, _))

section Uniform

variable {ps ps' : List Piece}

theorem Uniform.mono (h : Uniform ps) (hsub : ps' ⊆ ps) : Uniform ps' :=
  fun p hp q hq => h p (hsub hp) q (hsub hq)

theorem Piece.Respelled.isClosing_eq {name name' text text' : List Char} {q q' : Piece}
    (hletters : SameLetters name name') (hq : q.Respelled q')
    (hagrees : (Piece.opening name text).Agrees q)
    (hagrees' : (Piece.opening name' text').Agrees q') :
    q.isClosing name = q'.isClosing name' := by
  cases hq with
  | literal | opening => rfl
  | closing h =>
    rw [Piece.isClosing, Piece.isClosing, Bool.eq_iff_iff, beq_iff_eq, beq_iff_eq]
    constructor
    · rintro rfl
      exact (hagrees' (hletters.symm.trans h.sameLetters)).symm
    · rintro rfl
      exact (hagrees (hletters.trans h.sameLetters.symm)).symm

theorem closedAfter?_eq_of_agrees {p p' : Piece} (hp : p.Respelled p')
    (h : List.Forall₂ Piece.Respelled ps ps') (hagrees : ∀ q ∈ ps, p.Agrees q)
    (hagrees' : ∀ q ∈ ps', p'.Agrees q) : p.closedAfter? ps = p'.closedAfter? ps' := by
  cases hp with
  | literal | closing => rfl
  | opening hname =>
    rw [Piece.closedAfter?, Piece.closedAfter?]
    induction h with
    | nil => rfl
    | cons hq _ ih =>
      rw [List.forall_mem_cons] at hagrees hagrees'
      rw [List.findIdx?_cons, List.findIdx?_cons, ih hagrees.2 hagrees'.2,
        hq.isClosing_eq hname.sameLetters hagrees.1 hagrees'.1]

/-- Where every condition is spelled in one way, the regions do not depend on which way it is. -/
theorem extents_eq_of_uniform (h : List.Forall₂ Piece.Respelled ps ps') (hps : Uniform ps)
    (hps' : Uniform ps') : extents ps = extents ps' := by
  fun_induction extents ps generalizing ps' with
  | case1 =>
    cases h
    rw [extents]
  | case2 p rest ih =>
    cases h with
    | @cons _ p' _ rest' hp hrest =>
      have hextent : p.closedAfter? rest = p'.closedAfter? rest' :=
        closedAfter?_eq_of_agrees hp hrest
          (fun q hq => hps p List.mem_cons_self q (List.mem_cons_of_mem p hq))
          (fun q hq => hps' p' List.mem_cons_self q (List.mem_cons_of_mem p' hq))
      have hsub : ∀ {q : Piece} {qs : List Piece} (n : Nat), qs.drop n ⊆ q :: qs :=
        fun n _ hq => List.mem_cons_of_mem _ (List.mem_of_mem_drop hq)
      rw [extents, ← hextent,
        ih (List.forall₂_drop _ hrest) (hps.mono (hsub _)) (hps'.mono (hsub _))]

end Uniform

section Walk

/-- Whether a region is kept does not depend on the case of its condition. -/
def IgnoresCase (keep : String → Bool) : Prop :=
  ∀ name name', (∀ c ∈ name, isNameChar c = true) → SameLetters name name' →
    keep (String.ofList name) = keep (String.ofList name')

variable {keep : String → Bool}

/-- The walk goes on right after a region. -/
theorem walk_cons (p : Piece) (rest : List Piece) :
    walk keep (p :: rest) =
      p.resolved keep rest ++ walk keep (rest.drop ((p.closedAfter? rest).elim 0 (· + 1))) := by
  cases p with
  | literal text => exact walk_cons_of_not_opening rfl
  | closing name text => exact walk_cons_of_not_opening rfl
  | opening name text =>
    rw [walk]
    simp only [Piece.resolved, Piece.closedAfter?]
    cases hindex : rest.findIdx? (Piece.isClosing name) with
    | none =>
      have hany : rest.any (Piece.isClosing name) = false := by
        rw [List.any_eq_false]
        intro p hp
        rw [List.findIdx?_eq_none_iff.1 hindex p hp]
        exact Bool.false_ne_true
      rw [hany]
      rfl
    | some i =>
      obtain ⟨hi, hfirst⟩ := List.findIdx?_eq_some_iff_findIdx_eq.1 hindex
      have hany : rest.any (Piece.isClosing name) = true := by
        rw [List.any_eq_true, ← List.findIdx_lt_length, hfirst]
        exact hi
      simp only [List.takeWhile_eq_take_findIdx_not, List.dropWhile_eq_drop_findIdx_not,
        Bool.not_not, hfirst, hany, if_true, List.tail_drop, Option.elim_some]

theorem Piece.Respelled.resolved {p p' : Piece} {rest rest' : List Piece} (hp : p.Respelled p')
    (hrest : List.Forall₂ Piece.Respelled rest rest')
    (hextent : p.closedAfter? rest = p'.closedAfter? rest') (hkeep : IgnoresCase keep) :
    Token.Respelled (p.resolved keep rest) (p'.resolved keep rest') := by
  cases hp with
  | literal text => exact .refl text
  | closing h => exact (Piece.Respelled.closing h).text
  | @opening name name' text text' h =>
    simp only [Piece.resolved, ← hextent]
    cases (Piece.opening name text).closedAfter? rest with
    | none => exact (Piece.Respelled.opening h).text
    | some i =>
      simp only [hkeep name name' h.isNameChar h.sameLetters]
      split
      · exact respelled_textOf (List.forall₂_take i hrest)
      · exact .nil

/-- Walks over respelled pieces with the same regions make respelled texts. -/
theorem respelled_walk {ps ps' : List Piece} (h : List.Forall₂ Piece.Respelled ps ps')
    (hextents : extents ps = extents ps') (hkeep : IgnoresCase keep) :
    Token.Respelled (walk keep ps) (walk keep ps') := by
  -- the induction is on the regions of the first walk, which the second one shares
  fun_induction extents ps generalizing ps' with
  | case1 =>
    cases h
    rw [walk]
    exact .nil
  | case2 p rest ih =>
    cases h with
    | @cons _ p' _ rest' hp hrest =>
      rw [extents] at hextents
      obtain ⟨hextent, hlater⟩ := List.cons.inj hextents
      rw [walk_cons, walk_cons]
      apply (hp.resolved hrest hextent hkeep).append
      rw [← hextent] at hlater ⊢
      exact ih (List.forall₂_drop _ hrest) hlater

end Walk

/-- **Conditional processing respells a text** that is respelled, if it has the same regions. -/
theorem respelled_process {template template' : String}
    (h : Token.Respelled template.toList template'.toList)
    (hextents : extents (cut template.toList) = extents (cut template'.toList)) (ctx : Context) :
    Token.Respelled (process template ctx).toList (process template' ctx).toList := by
  have hkeep : IgnoresCase (Condition.evaluate ctx) :=
    fun _ _ hname hletters => Condition.evaluate_of_sameLetters hname hletters ctx
  have hwalk := respelled_walk (respelled_cut h) hextents hkeep
  rw [process, process, String.toList_ofList, String.toList_ofList, stripChars_eq_withoutOpenings,
    stripChars_eq_withoutOpenings, resolve_eq_walk, resolve_eq_walk]
  exact respelled_withoutOpenings (respelled_cut hwalk)

end Region

end WorkspaceTemplates

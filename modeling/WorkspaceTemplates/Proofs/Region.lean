/-
  WorkspaceTemplates/Proofs/Region.lean
  =====================================
  **What resolving conditional regions does to a text.**

  A region is an opening token, a body and a closing token of the same name
  (`matchAt?_spec`).  Keeping a body takes out two tokens, dropping it takes out the
  whole region, and stripping takes out single tokens: all of these are replacements
  by nothing, so conditional processing makes no token in a text in which the tokens
  it takes out are spaced.
-/
import WorkspaceTemplates.Proofs.Token.Replace
import WorkspaceTemplates.Region

namespace WorkspaceTemplates.Region

open Token

/-! ### Reading a region -/

/-- The closing token that is found stands right after the body. -/
theorem untilClosed?_spec {name s body after : List Char}
    (h : untilClosed? name s = some (body, after)) :
    ∃ close, Spells (endifTag ++ name) close ∧ s = body ++ (close ++ after) := by
  induction s generalizing body with
  | nil => cases h
  | cons c rest ih =>
    have later : (untilClosed? name rest).map (fun p => (c :: p.1, p.2)) = some (body, after) →
        ∃ close, Spells (endifTag ++ name) close ∧ c :: rest = body ++ (close ++ after) := by
      intro hl
      obtain ⟨⟨b, a⟩, hb, he⟩ := Option.map_eq_some_iff.1 hl
      cases he
      obtain ⟨close, hclose, hrest⟩ := ih hb
      exact ⟨close, hclose, congrArg (c :: ·) hrest⟩
    rw [untilClosed?] at h
    split at h
    · rename_i n a hm
      split at h
      · rename_i hn
        subst hn
        cases h
        obtain ⟨-, text, ht, hs⟩ := (Token.matchAt?_eq_some_iff endifTag_isNameChar).1 hm
        exact ⟨text, ht, hs⟩
      · exact later h
    · exact later h

/-- A region is an opening token, its body and the closing token of its name. -/
theorem matchAt?_spec {s name body after : List Char}
    (h : matchAt? s = some (name, body, after)) :
    name ≠ [] ∧ ∃ opening close, Spells (ifTag ++ name) opening ∧
      Spells (endifTag ++ name) close ∧ s = opening ++ (body ++ (close ++ after)) := by
  obtain ⟨⟨n, inside⟩, hm, h⟩ := Option.bind_eq_some_iff.1 h
  obtain ⟨⟨b, a⟩, hc, he⟩ := Option.map_eq_some_iff.1 h
  cases he
  obtain ⟨hne, opening, hopening, rfl⟩ := (Token.matchAt?_eq_some_iff ifTag_isNameChar).1 hm
  obtain ⟨close, hclose, rfl⟩ := untilClosed?_spec hc
  exact ⟨hne, opening, close, hopening, hclose, rfl⟩

/-! ### Conditional processing replaces tokens -/

/-- The name of a token that may be taken out: it opens a region, or closes one of a condition
    that some token opens. -/
def TakenOut (s name : List Char) : Prop :=
  ∃ condition, condition ≠ [] ∧ (name = ifTag ++ condition ∨
    name = endifTag ++ condition ∧ Occurs (ifTag ++ condition) s)

theorem TakenOut.mono {s t name : List Char} (hst : s <:+: t) (h : TakenOut s name) :
    TakenOut t name := by
  obtain ⟨condition, hne, hif | ⟨hendif, hopened⟩⟩ := h
  · exact ⟨condition, hne, .inl hif⟩
  · exact ⟨condition, hne, .inr ⟨hendif, hopened.mono hst⟩⟩

instance (s : List Char) : DecidablePred (TakenOut s) := fun name =>
  decidable_of_iff
    ((ifTag <+: name ∧ name ≠ ifTag) ∨ (endifTag <+: name ∧ name ≠ endifTag ∧
      String.ofList (ifTag ++ name.drop endifTag.length) ∈ Token.names (String.ofList s))) <| by
    unfold TakenOut
    constructor
    · rintro (⟨⟨c, rfl⟩, hne⟩ | ⟨⟨c, rfl⟩, hne, hmem⟩)
      · exact ⟨c, by simpa using hne, .inl rfl⟩
      · exact ⟨c, by simpa using hne, .inr ⟨rfl, by simpa [mem_names_iff] using hmem⟩⟩
    · rintro ⟨c, hne, rfl | ⟨rfl, hopened⟩⟩
      · exact .inl ⟨List.prefix_append _ _, by simpa using hne⟩
      · exact .inr ⟨List.prefix_append _ _, by simpa using hne,
          by simpa [mem_names_iff] using hopened⟩

/-- Resolving the regions of a text takes out opening tokens and their closing tokens. -/
theorem replacements_resolve (keep : String → Bool) (s : List Char) :
    Replacements (TakenOut s) s (resolve keep s) := by
  fun_induction resolve keep s with
  | case1 => exact .refl
  | case2 c rest name body after hm ih =>
    obtain ⟨hne, opening, close, hopening, hclose, hs⟩ := matchAt?_spec hm
    rw [hs]
    have hif : TakenOut (opening ++ (body ++ (close ++ after))) (ifTag ++ name) :=
      ⟨name, hne, .inl rfl⟩
    have hendif : TakenOut (opening ++ (body ++ (close ++ after))) (endifTag ++ name) :=
      ⟨name, hne, .inr ⟨rfl, opening, hopening, (List.prefix_append opening _).isInfix⟩⟩
    have hinfix : after <:+: opening ++ (body ++ (close ++ after)) :=
      ⟨opening ++ (body ++ close), [], by simp⟩
    have ih := ih.mono fun n => TakenOut.mono hinfix
    split
    · have hafter := ih.head (x := []) hclose hendif (v := []) (by simp)
      have hbody := (hafter.append_left body).head (x := []) hopening hif (v := []) (by simp)
      simpa using hbody
    · have hregion := ih.head (x := body ++ close) hopening hif (v := []) (by simp)
      simpa using hregion
  | case3 c rest _ ih =>
    exact (ih.mono fun n => TakenOut.mono (List.suffix_cons c rest).isInfix).append_left [c]

/-- Removing the opening tokens of a text takes out opening tokens. -/
theorem replacements_stripChars (s t : List Char) :
    Replacements (TakenOut t) s (stripChars s) :=
  replacements_replaceAll ifTag_isNameChar (fun name hne => ⟨name, hne, .inl rfl⟩) s
    fun _ _ => by simp

/-- **Conditional processing makes replacements only.** -/
theorem replacements_process (template : String) (ctx : Context) :
    Replacements (TakenOut template.toList) template.toList (process template ctx).toList := by
  rw [process, String.toList_ofList]
  exact (replacements_resolve _ _).trans (replacements_stripChars _ _)

end WorkspaceTemplates.Region

/-
  WorkspaceTemplates/Proofs/Template/Builtin.lean
  ===============================================
  **The builtin templates render completely.**

  Every token of a builtin template is told apart from what stands before it, and
  the name of every placeholder stands for a key with a default.  Both are read off
  the text at each `<` (`eachToken`), so whatever the context is, no name lacks a
  value, and no token is left unless a displayed value brings a `<` in.
-/
import WorkspaceTemplates.Proofs.Engine.NoLeak
import WorkspaceTemplates.Proofs.Normal
import WorkspaceTemplates.Template.Builtin

namespace WorkspaceTemplates

/-! ### The characters of a text -/

namespace Text

def isAscii (b : UInt8) : Bool := b < 128

/-- The characters of a text, read off its bytes when each of these is a character. -/
def chars (s : String) : List Char :=
  let bytes := s.toByteArray.data.toList
  if bytes.all isAscii then bytes.map fun b => Char.ofNat b.toNat else s.toList

theorem utf8EncodeChar_ofNat {b : UInt8} (h : isAscii b = true) :
    String.utf8EncodeChar (Char.ofNat b.toNat) = [b] := by
  have hlt : b.toNat < 128 := by simpa [isAscii, UInt8.lt_iff_toNat_lt] using h
  have hvalid : Nat.isValidChar b.toNat := .inl (by omega)
  have hval : (Char.ofNat b.toNat).val.toNat = b.toNat := by
    rw [Char.ofNat, dif_pos hvalid]
    rfl
  rw [String.utf8EncodeChar, hval, if_pos (by omega), UInt8.ofNat_toNat]

theorem chars_eq_toList (s : String) : chars s = s.toList := by
  rw [chars]
  split
  · rename_i h
    rw [List.all_eq_true] at h
    have hbytes : (s.toByteArray.data.toList.map fun b => Char.ofNat b.toNat).flatMap
        String.utf8EncodeChar = s.toByteArray.data.toList := by
      rw [List.flatMap_map, List.flatMap_congr fun b hb => utf8EncodeChar_ofNat (h b hb)]
      simp
    have hs : String.ofList (s.toByteArray.data.toList.map fun b => Char.ofNat b.toNat) = s := by
      rw [← String.toByteArray_inj, String.toByteArray_ofList, List.utf8Encode, hbytes]
      apply ByteArray.ext
      rw [List.data_toByteArray, Array.toArray_toList]
    rw [← String.toList_inj.2 hs, String.toList_ofList]
  · rfl

end Text

namespace Token

/-! ### Texts whose tokens are told apart -/

/-- The text goes on with a character that neither continues nor starts a token. -/
def breaksOff : List Char → Bool
  | [] => false
  | c :: _ => c != 'P' && c != '<'

/-- Every `<` of a text starts a token whose name has a property, or breaks off at once. -/
def eachToken (p : List Char → Bool) : List Char → Bool
  | [] => true
  | c :: rest =>
    (c != '<' || match matchAt? [] (c :: rest) with
      | some (name, _) => p name
      | none => breaksOff rest) && eachToken p rest

section EachToken

variable {p : List Char → Bool} {s t rest name : List Char}

theorem eachToken_suffix (h : eachToken p s = true) (ht : t <:+ s) : eachToken p t = true := by
  obtain ⟨before, rfl⟩ := ht
  induction before with
  | nil => exact h
  | cons c before ih =>
    rw [List.cons_append, eachToken, Bool.and_eq_true] at h
    exact ih h.2

theorem of_matchAt? (h : eachToken p s = true) (hm : matchAt? [] s = some (name, rest)) :
    p name = true := by
  cases s with
  | nil => cases hm
  | cons c s =>
    rw [eachToken, hm, Bool.and_eq_true] at h
    have hc : c = '<' := Option.some.inj (head?_of_matchAt? hm)
    simpa [hc] using h.1

theorem Occurs.of_eachToken (hname : Occurs name s) (h : eachToken p s = true) :
    p name = true := by
  obtain ⟨a, b, rest, rfl, hb⟩ := occurs_iff.1 hname
  exact of_matchAt? (eachToken_suffix h (List.suffix_append a b)) hb

/-- A whole token is not unfinished. -/
theorem Spells.not_unfinished {text : List Char} (h : Spells name text) : ¬ Unfinished text := by
  rintro ⟨-, name', text', h', ⟨q, rfl⟩, hne⟩
  have hshort := h.matchAt?_append q
  have hwhole := h'.matchAt?_append []
  rw [List.append_nil, hshort] at hwhole
  obtain ⟨-, rfl⟩ := Prod.mk.inj (Option.some.inj hwhole)
  exact hne (List.append_nil text).symm

/-- An unfinished token goes on as a token does. -/
theorem Unfinished.second {c : Char} {u : List Char} (h : Unfinished ('<' :: c :: u)) :
    c = 'P' := by
  obtain ⟨-, name, text, ht, hprefix, -⟩ := h
  obtain ⟨-, -, blanks, -, rfl⟩ := ht
  obtain ⟨w, hw⟩ := hprefix
  exact (List.cons.inj (List.cons.inj hw).2).1

/-- **Tokens that are told apart are spaced.** -/
theorem spaced_of_eachToken (h : eachToken p s = true) : Spaced s := by
  rintro a b rfl hb ⟨u, ⟨before, rfl⟩, hu⟩
  obtain ⟨⟨name, more⟩, hname⟩ := Option.isSome_iff_exists.1 hb
  obtain ⟨b, rfl⟩ : ∃ b', b = '<' :: b' := by
    cases b with
    | nil => cases hname
    | cons c b => exact ⟨b, by rw [Option.some.inj (head?_of_matchAt? hname)]⟩
  obtain ⟨u, rfl⟩ : ∃ u', u = '<' :: u' := by
    cases u with
    | nil => exact absurd rfl hu.1
    | cons c u => exact ⟨u, by rw [Option.some.inj hu.head?]⟩
  have hfrom := eachToken_suffix h (t := '<' :: (u ++ '<' :: b)) ⟨before, by simp⟩
  rw [eachToken, Bool.and_eq_true] at hfrom
  have hstart := hfrom.1
  simp only [bne_self_eq_false, Bool.false_or] at hstart
  split at hstart
  · -- a token that starts where `u` does ends before the next `<`, so `u` is not unfinished
    rename_i name' rest hm
    obtain ⟨text, ht, heq⟩ := matchAt?_nil_eq_some_iff.1 hm
    rw [← List.cons_append] at heq
    rcases List.append_eq_append_iff.1 heq with ⟨z, rfl, hz⟩ | ⟨z, hz, -⟩
    · cases z with
      | nil =>
        rw [List.append_nil] at ht
        exact ht.not_unfinished hu
      | cons c z =>
        obtain ⟨tail, htail, hmem⟩ := ht.exists_cons
        apply hmem
        rw [← (List.cons.inj htail).2, (List.cons.inj hz).1]
        simp
    · rw [hz] at hu
      refine ht.not_unfinished (hu.of_prefix (List.prefix_append text z) ?_)
      obtain ⟨tail, rfl, -⟩ := ht.exists_cons
      exact List.cons_ne_nil _ _
  · cases u with
    | nil => simp [breaksOff] at hstart
    | cons c u => simp [breaksOff, hu.second] at hstart

theorem eachToken_ofLines {lines : List String}
    (h : eachToken p (lines.flatMap fun line => Text.chars line ++ ['\n']) = true) :
    eachToken p (Text.ofLines lines).toList = true := by
  rw [Text.ofLines, String.toList_ofList]
  simpa only [Text.chars_eq_toList] using h

end EachToken

end Token

/-! ### Builtin templates -/

namespace Template

open Token

/-- The name of a conditional token, or one that stands for a key with a default. -/
def isProvided (name : List Char) : Bool :=
  let n := String.ofList name
  isConditional n ||
    (Lookup.candidates Aliases.standard n).any fun key =>
      (Defaults.standard.map (·.1)).contains key

theorem eachToken_builtinText (t : Template) :
    eachToken isProvided t.builtinText.toList = true := by
  rcases t with _ | l | c | _
  · exact eachToken_ofLines (by decide +kernel)
  · cases l with
    | core => exact eachToken_ofLines (by decide +kernel)
    | architecture => exact eachToken_ofLines (by decide +kernel)
    | projectType => exact eachToken_ofLines (by decide +kernel)
    | language => exact eachToken_ofLines (by decide +kernel)
    | framework => exact eachToken_ofLines (by decide +kernel)
  · cases c with
    | test => exact eachToken_ofLines (by decide +kernel)
    | build => exact eachToken_ofLines (by decide +kernel)
    | deploy => exact eachToken_ofLines (by decide +kernel)
    | docker => exact eachToken_ofLines (by decide +kernel)
  · exact eachToken_ofLines (by decide +kernel)

theorem spaced_builtinText (t : Template) : Spaced t.builtinText.toList :=
  spaced_of_eachToken (eachToken_builtinText t)

/-- A provided name has a value in every completed context. -/
theorem lacksValue_of_isProvided {name : String} (ctx : Context)
    (h : isProvided name.toList = true) :
    Engine.standard.lacksValue (Engine.standard.normalize ctx) name = false := by
  simp only [isProvided, String.ofList_toList, Bool.or_eq_true, List.any_eq_true,
    List.contains_iff_mem] at h
  rcases h with hcond | ⟨key, hcandidate, hkey⟩
  · rw [Engine.lacksValue, hcond]
    rfl
  · have hcontains : (Engine.standard.normalize ctx).contains key = true :=
      Normal.contains_of_isMissing (Normal.isMissing_normalize hkey)
    have hfound : (Lookup.key? Engine.standard.aliases name
        (Engine.standard.normalize ctx)).isSome := by
      rw [Lookup.key?, List.find?_isSome]
      exact ⟨key, hcandidate, hcontains⟩
    simp [Engine.lacksValue, Option.isNone_eq_false_iff.2 hfound]

/-- **No name of a builtin template lacks a value**, whatever the context is. -/
theorem missing_render_builtinText (t : Template) (ctx : Context) :
    (Engine.standard.render t.builtinText ctx).missing = [] := by
  have hprocess := Region.replacements_process t.builtinText (Engine.standard.normalize ctx)
  simp only [Engine.render, Engine.fillIn, List.filter_eq_nil_iff, Bool.not_eq_true]
  intro name hname
  apply lacksValue_of_isProvided
  have hoccurs := (mem_names_iff.1 hname).of_replacements (spaced_builtinText t) hprocess
  exact hoccurs.of_eachToken (eachToken_builtinText t)

end Template

/-- No value of a context displays a `<`. -/
def Context.ShowsPlainly (ctx : Context) : Prop :=
  ∀ e ∈ ctx.entries, '<' ∉ e.2.display.toList

instance (ctx : Context) : Decidable ctx.ShowsPlainly :=
  inferInstanceAs (Decidable (∀ e ∈ ctx.entries, _))

theorem Engine.not_mem_substitute_of_showsPlainly {e : Engine} {ctx : Context}
    (h : ctx.ShowsPlainly) (name : List Char) : '<' ∉ e.substitute ctx name := by
  rw [substitute]
  split
  · simp
  · cases hr : Lookup.resolve? e.aliases (String.ofList name) ctx with
    | none => simp
    | some shown =>
      obtain ⟨key, value, -, hvalue, rfl⟩ := resolve?_eq_some_iff.1 hr
      exact h _ (Entries.mem_of_lookup hvalue)

/-- **No token is left of a builtin template** when no value displays a `<`. -/
theorem Template.names_render_builtinText (t : Template) {ctx : Context}
    (h : (Engine.standard.normalize ctx).ShowsPlainly) :
    Token.names (Engine.standard.render t.builtinText ctx).output = [] := by
  rw [Token.names_eq_nil_iff]
  simp only [Engine.render, Engine.fillIn, String.toList_ofList]
  apply Token.not_occurs_replaceAll
  · exact (spaced_builtinText t).of_replacements (Region.replacements_process _ _)
  · exact fun name _ => Engine.not_mem_substitute_of_showsPlainly h name

end WorkspaceTemplates

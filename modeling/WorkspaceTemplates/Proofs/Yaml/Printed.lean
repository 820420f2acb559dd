/-
  WorkspaceTemplates/Proofs/Yaml/Printed.lean
  ===========================================
  **Documents that hold what was printed.**

  What is printed is a tree, and what is read is a node.  A node holds a tree when it
  has the same shape and the same scalars, without tags and aliases: a word stands there
  as a plain scalar, a text as a scalar that is read as a text, in whatever style.  That
  the reader finds in a printed text what was printed is a condition on what was printed
  (`ReadsBack`), which can be decided.

  Words are read as what they were made from: a number from its decimal digits, and a
  truth value from its name.
-/
import WorkspaceTemplates.Proofs.Json.Lexical
import WorkspaceTemplates.Value.Display
import WorkspaceTemplates.Yaml.Writer

namespace WorkspaceTemplates.Yaml

/-! ### Nodes and trees -/

/-- Whether a plain scalar is read as a text. -/
def readsAsText (s : String) : Bool :=
  match plainData s with
  | some (.text _) => true
  | _ => false

mutual

/-- Whether a node holds a tree. -/
def Node.holds : Node → Tree → Bool
  | .scalar _ tag style s, .word w => tag.isNone && style = .plain && s == w
  | .scalar _ tag style s, .text t => tag.isNone && (style ≠ .plain || readsAsText s) && s == t
  | .sequence _ tag items, .sequence trees => tag.isNone && itemsHold items trees
  | .mapping _ tag entries, .mapping trees => tag.isNone && entriesHold entries trees
  | _, _ => false

/-- Whether nodes hold trees, one by one. -/
def itemsHold : List Node → List Tree → Bool
  | [], [] => true
  | n :: items, t :: trees => n.holds t && itemsHold items trees
  | _, _ => false

/-- Whether entries of a mapping hold named trees, one by one. -/
def entriesHold : List (Node × Node) → List (String × Tree) → Bool
  | [], [] => true
  | (k, n) :: entries, (key, t) :: trees =>
    k.holds (.text key) && n.holds t && entriesHold entries trees
  | _, _ => false

end

/-- The reader of documents finds a mapping in a text. -/
def ReadsAs (text : String) (entries : List (String × Tree)) : Prop :=
  ((Document.parse? text).bind (·.root)).any (·.holds (.mapping entries)) = true

instance (text : String) (entries : List (String × Tree)) : Decidable (ReadsAs text entries) :=
  inferInstanceAs (Decidable (_ = true))

/-- What the reader finds in the printed text of a mapping is that mapping. -/
def ReadsBack (entries : List (String × Tree)) : Prop := ReadsAs (documentText entries) entries

instance (entries : List (String × Tree)) : Decidable (ReadsBack entries) :=
  inferInstanceAs (Decidable (ReadsAs _ _))

section Holds

variable {n : Node}

theorem Node.eq_of_holds_word {w : String} (h : n.holds (.word w) = true) :
    ∃ anchor, n = .scalar anchor none .plain w := by
  cases n with
  | scalar anchor tag style s =>
    simp only [Node.holds, Bool.and_eq_true, Option.isNone_iff_eq_none, decide_eq_true_eq,
      beq_iff_eq] at h
    obtain ⟨⟨rfl, rfl⟩, rfl⟩ := h
    exact ⟨anchor, rfl⟩
  | _ => simp [Node.holds] at h

theorem Node.eq_of_holds_text {t : String} (h : n.holds (.text t) = true) :
    ∃ anchor style, n = .scalar anchor none style t ∧ (style = .plain → readsAsText t = true) := by
  cases n with
  | scalar anchor tag style s =>
    simp only [Node.holds, Bool.and_eq_true, Option.isNone_iff_eq_none, Bool.or_eq_true,
      decide_eq_true_eq, beq_iff_eq] at h
    obtain ⟨⟨rfl, hstyle⟩, rfl⟩ := h
    exact ⟨anchor, style, rfl, fun hplain => hstyle.resolve_left (not_not_intro hplain)⟩
  | _ => simp [Node.holds] at h

theorem Node.eq_of_holds_sequence {trees : List Tree} (h : n.holds (.sequence trees) = true) :
    ∃ anchor items, n = .sequence anchor none items ∧ itemsHold items trees = true := by
  cases n with
  | sequence anchor tag items =>
    simp only [Node.holds, Bool.and_eq_true, Option.isNone_iff_eq_none] at h
    obtain ⟨rfl, hitems⟩ := h
    exact ⟨anchor, items, rfl, hitems⟩
  | _ => simp [Node.holds] at h

theorem Node.eq_of_holds_mapping {trees : List (String × Tree)}
    (h : n.holds (.mapping trees) = true) :
    ∃ anchor entries, n = .mapping anchor none entries ∧ entriesHold entries trees = true := by
  cases n with
  | mapping anchor tag entries =>
    simp only [Node.holds, Bool.and_eq_true, Option.isNone_iff_eq_none] at h
    obtain ⟨rfl, hentries⟩ := h
    exact ⟨anchor, entries, rfl, hentries⟩
  | _ => simp [Node.holds] at h

theorem exists_of_itemsHold_cons {items : List Node} {t : Tree} {trees : List Tree}
    (h : itemsHold items (t :: trees) = true) :
    ∃ m rest, items = m :: rest ∧ m.holds t = true ∧ itemsHold rest trees = true := by
  cases items with
  | nil => simp [itemsHold] at h
  | cons m rest =>
    rw [itemsHold, Bool.and_eq_true] at h
    exact ⟨m, rest, rfl, h⟩

theorem exists_of_entriesHold_cons {entries : List (Node × Node)} {key : String} {t : Tree}
    {trees : List (String × Tree)} (h : entriesHold entries ((key, t) :: trees) = true) :
    ∃ k m rest, entries = (k, m) :: rest ∧ k.holds (.text key) = true ∧ m.holds t = true ∧
      entriesHold rest trees = true := by
  cases entries with
  | nil => simp [entriesHold] at h
  | cons e rest =>
    rw [entriesHold, Bool.and_eq_true, Bool.and_eq_true] at h
    exact ⟨e.1, e.2, rest, rfl, h.1.1, h.1.2, h.2⟩

theorem eq_nil_of_itemsHold {items : List Node} (h : itemsHold items [] = true) : items = [] := by
  cases items with
  | nil => rfl
  | cons m rest => simp [itemsHold] at h

theorem eq_nil_of_entriesHold {entries : List (Node × Node)} (h : entriesHold entries [] = true) :
    entries = [] := by
  cases entries with
  | nil => rfl
  | cons e rest => simp [entriesHold] at h

theorem readsAs_iff {text : String} {entries : List (String × Tree)} :
    ReadsAs text entries ↔
      ∃ d n, Document.parse? text = some d ∧ d.root = some n ∧
        n.holds (.mapping entries) = true := by
  simp only [ReadsAs, Option.any_eq_true, Option.bind_eq_some_iff]
  constructor
  · rintro ⟨n, ⟨d, hd, hn⟩, hholds⟩
    exact ⟨d, n, hd, hn, hholds⟩
  · rintro ⟨d, n, hd, hn, hholds⟩
    exact ⟨n, ⟨d, hd, hn⟩, hholds⟩

/-- A plain scalar that is read as a text is no spelling of null. -/
theorem not_null_of_readsAsText {s : String} (h : readsAsText s = true) :
    (s.isEmpty || isNullText s) = false := by
  rw [Bool.eq_false_iff]
  intro hnull
  rw [readsAsText, plainData, if_pos hnull] at h
  cases h

end Holds

/-! ### Words -/

theorem digitOfBase?_ten {c : Char} (h : c.isDigit = true) :
    digitOfBase? 10 c = some (c.toNat - '0'.toNat) := by
  have hrange : '0' ≤ c ∧ c ≤ '9' := by
    simpa [Char.isDigit, Char.le_def] using h
  have hsmall : c.toNat - '0'.toNat < 10 := by
    have hle : c.toNat ≤ '9'.toNat := hrange.2
    have h9 : '9'.toNat = 57 := rfl
    have h0 : '0'.toNat = 48 := rfl
    omega
  rw [digitOfBase?, hexValue?, if_pos hrange, Option.bind_some, if_pos hsmall]

theorem foldlM_digits {ds : List Char} (h : ∀ c ∈ ds, c.isDigit = true) (n : Nat) :
    ds.foldlM (fun n c => (digitOfBase? 10 c).map (n * 10 + ·)) n =
      some (Nat.ofDigitChars 10 ds n) := by
  induction ds generalizing n with
  | nil => rfl
  | cons c ds ih =>
    rw [List.forall_mem_cons] at h
    rw [List.foldlM_cons, digitOfBase?_ten h.1, Nat.ofDigitChars_cons, Nat.mul_comm 10 n]
    exact ih h.2 _

/-- A number is read from its decimal digits. -/
theorem integerOfText?_repr (n : Nat) : integerOfText? n.repr = some (n : Int) := by
  rcases Nat.eq_zero_or_pos n with rfl | hn
  · decide
  · have hdigits := Json.Reader.isDigit_of_mem_toDigits n
    have hvalue : digitsOfBase? 10 (Nat.toDigits 10 n) = some n := by
      rw [digitsOfBase?, if_neg (by simp), foldlM_digits hdigits, Nat.ofDigitChars_ten_toDigits]
    obtain ⟨c, cs, hcs, hzero⟩ := Json.Reader.toDigits_of_pos hn
    rw [hcs] at hdigits hvalue
    have hc : c.isDigit = true := hdigits c List.mem_cons_self
    have hminus : c ≠ '-' := by rintro rfl; exact absurd hc (by decide)
    have hplus : c ≠ '+' := by rintro rfl; exact absurd hc (by decide)
    have hpadded : isZeroPadded (c :: cs) = false := by
      simp [isZeroPadded, hminus, hplus, hzero]
    rw [integerOfText?, Nat.toList_repr, hcs]
    simp [hminus, hplus, hzero, hpadded, hvalue]

/-- The digits of a number have no sign. -/
theorem startsWith_repr (n : Nat) : n.repr.startsWith "-" = false := by
  rw [String.startsWith_string_eq_false_iff, Nat.toList_repr]
  intro hsign
  have hmem : '-' ∈ Nat.toDigits 10 n := hsign.subset (by simp)
  exact absurd (Json.Reader.isDigit_of_mem_toDigits n '-' hmem) (by decide)

theorem boolOfText?_boolText (b : Bool) : boolOfText? (Value.boolText b) = some b := by
  cases b <;> decide

end WorkspaceTemplates.Yaml

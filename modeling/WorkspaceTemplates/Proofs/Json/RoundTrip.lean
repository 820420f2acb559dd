/-
  WorkspaceTemplates/Proofs/Json/RoundTrip.lean
  =============================================
  **Indented JSON is read back as the value that was written.**

  This needs integers of 64 bits and collections that the reader's nesting limit
  admits; numbers with a fraction are left out, since the fast rule may miss their
  last bit.  The induction is on the value.  What carries it is that a reader skips
  the line breaks and the indentation before a part, and stops at the first
  character behind it.
-/
import WorkspaceTemplates.Proofs.Json.Lexical

namespace WorkspaceTemplates.Json

open Lexical (skipSpace)

/-! ### Values that are read back -/

/-- Whether a number is an integer that the reader keeps. -/
def Number.IsExact : Number → Prop
  | .natural n => n < UInt64.size
  | .negative n => 0 < n ∧ n ≤ Decimal.twoPow 63
  | .real _ => False

mutual

/-- Whether all numbers of a value are kept and its collections nest at most `room` deep. -/
def Fits (room : Nat) : Json → Prop
  | .null | .bool _ | .string _ => True
  | .number n => n.IsExact
  | .array items => 0 < room ∧ FitItems (room - 1) items
  | .object members => 0 < room ∧ FitMembers (room - 1) members

def FitItems (room : Nat) : List Json → Prop
  | [] => True
  | j :: rest => Fits room j ∧ FitItems room rest

def FitMembers (room : Nat) : List (String × Json) → Prop
  | [] => True
  | (_, j) :: rest => Fits room j ∧ FitMembers room rest

end

theorem fitItems_map {α : Type} {room : Nat} {f : α → Json} {xs : List α}
    (h : ∀ x ∈ xs, Fits room (f x)) : FitItems room (xs.map f) := by
  induction xs with
  | nil => trivial
  | cons x xs ih =>
    exact ⟨h x List.mem_cons_self, ih fun y hy => h y (List.mem_cons_of_mem x hy)⟩

mutual

/-- The number of steps that reading a value takes. -/
def steps : Json → Nat
  | .array items => 1 + itemSteps items
  | .object members => 1 + memberSteps members
  | _ => 1

def itemSteps : List Json → Nat
  | [] => 0
  | j :: rest => 1 + steps j + itemSteps rest

def memberSteps : List (String × Json) → Nat
  | [] => 0
  | (_, j) :: rest => 1 + steps j + memberSteps rest

end

theorem steps_pos (j : Json) : 0 < steps j := by
  cases j with
  | array items =>
    rw [steps]
    omega
  | object members =>
    rw [steps]
    omega
  | _ => exact Nat.one_pos

/-! ### White space -/

theorem skipSpace_newline (level : Nat) (s : List Char) :
    skipSpace ((newline level).toList ++ s) = skipSpace s := by
  rw [newline, String.toList_ofList, skipSpace, List.dropWhile_append_of_pos]
  · rfl
  · intro c hc
    rcases List.mem_cons.1 hc with rfl | hc
    · decide
    · rw [List.eq_of_mem_replicate hc]
      decide

theorem endsNumber_newline (level : Nat) (s : List Char) :
    EndsNumber ((newline level).toList ++ s) := by
  rw [newline, String.toList_ofList]
  intro c hc
  cases hc
  decide

/-- Whether a written value may start with a character. -/
def opensValue (c : Char) : Bool :=
  c.isDigit || ['-', '"', '[', '\x7b', 'n', 't', 'f'].contains c

theorem skipSpace_of_opensValue {c : Char} (h : opensValue c = true) (cs : List Char) :
    skipSpace (c :: cs) = c :: cs := by
  rw [skipSpace, List.dropWhile_cons_of_neg]
  intro hspace
  simp only [Bool.or_eq_true, decide_eq_true_eq] at hspace
  rcases hspace with ((rfl | rfl) | rfl) | rfl
  · exact absurd h (by decide)
  · exact absurd h (by decide)
  · exact absurd h (by decide)
  · exact absurd h (by decide)

theorem numberText_head {n : Number} (h : n.IsExact) :
    ∃ c cs, (numberText n).toList = c :: cs ∧ (c.isDigit = true ∨ c = '-') := by
  cases n with
  | natural n =>
    rw [numberText, Nat.toList_repr]
    obtain ⟨c, cs, hcs⟩ := List.exists_cons_of_ne_nil (Nat.toDigits_ne_nil (n := n) (b := 10))
    refine ⟨c, cs, hcs, .inl (Reader.isDigit_of_mem_toDigits n c ?_)⟩
    rw [hcs]
    exact List.mem_cons_self
  | negative n =>
    rw [numberText, String.toList_append]
    exact ⟨'-', n.repr.toList, rfl, .inr rfl⟩
  | real x => exact absurd h id

theorem toList_quoted (s : String) :
    (quoted s).toList = '"' :: (s.toList.flatMap escapeChar ++ ['"']) := by
  rw [quoted, String.toList_ofList]
  rfl

/-! ### The lines of a collection -/

/-- The lines of a collection from its first part on, its end, and what follows it. -/
def partLines (level : Nat) (closing : String) (lines : List String) (rest : List Char) :
    List Char :=
  (("," ++ newline (level + 1)).intercalate lines).toList ++
    ((newline level).toList ++ (closing.toList ++ rest))

theorem block_nil (opening closing : String) (level : Nat) (rest : List Char) :
    (block opening closing level []).toList ++ rest =
      opening.toList ++ (closing.toList ++ rest) := by
  rw [block, if_pos List.isEmpty_nil, String.toList_append, List.append_assoc]

theorem block_cons (opening closing : String) (level : Nat) (line : String) (lines : List String)
    (rest : List Char) :
    (block opening closing level (line :: lines)).toList ++ rest =
      opening.toList ++ ((newline (level + 1)).toList ++
        partLines level closing (line :: lines) rest) := by
  rw [block, if_neg (by simp), partLines]
  simp only [String.toList_append, List.append_assoc]

theorem partLines_singleton (level : Nat) (closing line : String) (rest : List Char) :
    partLines level closing [line] rest =
      line.toList ++ ((newline level).toList ++ (closing.toList ++ rest)) := by
  rw [partLines, String.intercalate_singleton]

/-- The first part of a collection stands before a comma if there are more. -/
theorem partLines_cons_cons (level : Nat) (closing line next : String) (lines : List String)
    (rest : List Char) :
    partLines level closing (line :: next :: lines) rest =
      line.toList ++ ',' :: ((newline (level + 1)).toList ++
        partLines level closing (next :: lines) rest) := by
  rw [partLines, partLines, String.intercalate_cons_cons]
  simp only [String.toList_append, List.append_assoc]
  rfl

theorem partLines_head (level : Nat) (closing line : String) (lines : List String)
    (rest : List Char) :
    ∃ more, partLines level closing (line :: lines) rest = line.toList ++ more := by
  cases lines with
  | nil => exact ⟨_, partLines_singleton level closing line rest⟩
  | cons next lines => exact ⟨_, partLines_cons_cons level closing line next lines rest⟩

theorem prettyAt_head {room : Nat} {j : Json} (h : Fits room j) (level : Nat) :
    ∃ c cs, (prettyAt level j).toList = c :: cs ∧ opensValue c = true := by
  cases j with
  | null =>
    rw [prettyAt]
    exact ⟨'n', _, rfl, by decide⟩
  | bool b =>
    cases b with
    | true =>
      rw [prettyAt]
      exact ⟨'t', _, rfl, by decide⟩
    | false =>
      rw [prettyAt]
      exact ⟨'f', _, rfl, by decide⟩
  | number n =>
    rw [prettyAt]
    obtain ⟨c, cs, hcs, hc⟩ := numberText_head h
    refine ⟨c, cs, hcs, ?_⟩
    rcases hc with hc | rfl
    · rw [opensValue, hc, Bool.true_or]
    · decide
  | string s =>
    rw [prettyAt, toList_quoted]
    exact ⟨'"', _, rfl, by decide⟩
  | array items =>
    rw [prettyAt, ← List.append_nil (String.toList _)]
    cases prettyItems level items with
    | nil =>
      rw [block_nil]
      exact ⟨'[', _, rfl, by decide⟩
    | cons line lines =>
      rw [block_cons]
      exact ⟨'[', _, rfl, by decide⟩
  | object members =>
    rw [prettyAt, ← List.append_nil (String.toList _)]
    cases prettyMembers level members with
    | nil =>
      rw [block_nil]
      exact ⟨'\x7b', _, rfl, by decide⟩
    | cons line lines =>
      rw [block_cons]
      exact ⟨'\x7b', _, rfl, by decide⟩

theorem partLines_prettyItems_head {room : Nat} {j : Json} (h : Fits room j) (level : Nat)
    (items : List Json) (rest : List Char) :
    ∃ c cs, partLines level "]" (prettyItems level (j :: items)) rest = c :: cs ∧
      opensValue c = true := by
  obtain ⟨c, cs, hcs, hc⟩ := prettyAt_head h (level + 1)
  obtain ⟨more, hmore⟩ :=
    partLines_head level "]" (prettyAt (level + 1) j) (prettyItems level items) rest
  rw [prettyItems, hmore, hcs]
  exact ⟨c, cs ++ more, rfl, hc⟩

theorem partLines_prettyMembers_head (level : Nat) (k : String) (j : Json)
    (members : List (String × Json)) (rest : List Char) :
    ∃ cs, partLines level "\x7d" (prettyMembers level ((k, j) :: members)) rest = '"' :: cs := by
  obtain ⟨more, hmore⟩ :=
    partLines_head level "\x7d" (quoted k ++ ": " ++ prettyAt (level + 1) j)
      (prettyMembers level members) rest
  rw [prettyMembers, hmore, String.toList_append, String.toList_append, toList_quoted]
  exact ⟨_, rfl⟩

/-! ### Reading what was written -/

namespace Reader

theorem number?_numberText {n : Number} {rest : List Char} (h : n.IsExact)
    (hend : EndsNumber rest) : number? ((numberText n).toList ++ rest) = some (n, rest) := by
  cases n with
  | natural n => exact number?_natural h hend
  | negative n => exact number?_negative h.1 h.2 hend
  | real x => exact absurd h id

theorem value?_array {fuel depth : Nat} {shape : Shape} {s more cs : List Char} {c : Char}
    (hdepth : 1 < depth) (hs : skipSpace s = '[' :: more) (hskip : skipSpace more = c :: cs)
    (hc : c ≠ ']') :
    value? (fuel + 1) depth shape s =
      (items? fuel (depth - 1) shape 0 (c :: cs)).map fun (js, r) => (.array js, r) := by
  rw [value?, hs]
  simp only
  rw [if_neg (Nat.not_le.2 hdepth), hskip]
  split
  · rename_i heq
    exact absurd (List.cons.inj heq).1 hc
  · rfl

theorem value?_object {fuel depth : Nat} {shape : Shape} {s more cs : List Char} {c : Char}
    (hdepth : 1 < depth) (hs : skipSpace s = '\x7b' :: more) (hskip : skipSpace more = c :: cs)
    (hc : c ≠ '\x7d') :
    value? (fuel + 1) depth shape s =
      (members? fuel (depth - 1) shape (c :: cs)).map fun (ms, r) => (.object ms, r) := by
  rw [value?, hs]
  simp only
  rw [if_neg (Nat.not_le.2 hdepth), hskip]
  split
  · rename_i heq
    exact absurd (List.cons.inj heq).1 hc
  · rfl

theorem value?_numberText {n : Number} {fuel depth : Nat} {shape : Shape} {s rest : List Char}
    (h : n.IsExact) (hend : EndsNumber rest)
    (hs : skipSpace s = (numberText n).toList ++ rest) :
    value? (fuel + 1) depth shape s = some (.number n, rest) := by
  obtain ⟨c, cs, hcs, hc⟩ := numberText_head h
  have hother (d : Char) (hd : d.isDigit = false ∧ d ≠ '-') (more : List Char) :
      skipSpace s ≠ d :: more := by
    rw [hs, hcs]
    intro heq
    rw [(List.cons.inj heq).1] at hc
    rcases hc with hc | hc
    · rw [hd.1] at hc
      cases hc
    · exact hd.2 hc
  rw [value?]
  split
  · rename_i heq
    exact absurd heq (hother 'n' (by decide) _)
  · rename_i heq
    exact absurd heq (hother 't' (by decide) _)
  · rename_i heq
    exact absurd heq (hother 'f' (by decide) _)
  · rename_i heq
    exact absurd heq (hother '"' (by decide) _)
  · rename_i heq
    exact absurd heq (hother '[' (by decide) _)
  · rename_i heq
    exact absurd heq (hother '\x7b' (by decide) _)
  · rw [hs, number?_numberText h hend]
    rfl

theorem members?_of_member {fuel depth : Nat} {s more after : List Char} {k : String} {j : Json}
    (hs : skipSpace s = '"' :: (k.toList.flatMap escapeChar ++ '"' :: ':' :: more))
    (hvalue : value? fuel depth .whole more = some (j, after)) :
    members? (fuel + 1) depth .whole s =
      match skipSpace after with
      | ',' :: rest => (members? fuel depth .whole rest).map fun (ms, r) => ((k, j) :: ms, r)
      | '\x7d' :: rest => some ([(k, j)], rest)
      | _ => none := by
  have hcolon : skipSpace (':' :: more) = ':' :: more := rfl
  rw [members?, hs]
  simp only [Lexical.string?_quoted, hcolon, Shape.member?, hvalue, Option.map_some]
  rfl

theorem toList_member (k : String) (level : Nat) (j : Json) (rest : List Char) :
    (quoted k ++ ": " ++ prettyAt level j).toList ++ rest =
      '"' :: (k.toList.flatMap escapeChar ++
        '"' :: ':' :: ' ' :: ((prettyAt level j).toList ++ rest)) := by
  simp only [String.toList_append, toList_quoted, List.append_assoc, List.cons_append]
  rfl

theorem skipSpace_space_prettyAt {room : Nat} {j : Json} (h : Fits room j) (level : Nat)
    (rest : List Char) :
    skipSpace (' ' :: ((prettyAt level j).toList ++ rest)) = (prettyAt level j).toList ++ rest := by
  obtain ⟨c, cs, hcs, hc⟩ := prettyAt_head h level
  rw [hcs, List.cons_append]
  exact skipSpace_of_opensValue hc (cs ++ rest)

theorem endsNumber_comma (more : List Char) : EndsNumber (',' :: more) := by
  intro c hc
  cases hc
  decide

/-! ### One case for each constructor -/

/-- A written value is read as itself, up to what follows it. -/
def ReadsBack (j : Json) : Prop :=
  ∀ ⦃level room fuel : Nat⦄ ⦃s rest : List Char⦄, Fits room j → steps j ≤ fuel →
    EndsNumber rest → skipSpace s = (prettyAt level j).toList ++ rest →
      value? fuel (room + 1) .whole s = some (j, rest)

def ItemsReadBack (items : List Json) : Prop :=
  ∀ ⦃level room fuel place : Nat⦄ ⦃s rest : List Char⦄, FitItems room items →
    itemSteps items ≤ fuel →
      skipSpace s = partLines level "]" (prettyItems level items) rest →
        items? fuel (room + 1) .whole place s = some (items, rest)

def MembersReadBack (members : List (String × Json)) : Prop :=
  ∀ ⦃level room fuel : Nat⦄ ⦃s rest : List Char⦄, FitMembers room members →
    memberSteps members ≤ fuel →
      skipSpace s = partLines level "\x7d" (prettyMembers level members) rest →
        members? fuel (room + 1) .whole s = some (members, rest)

theorem exists_fuel {n fuel : Nat} (h : n ≤ fuel) (hn : 0 < n) : ∃ m, fuel = m + 1 :=
  ⟨fuel - 1, by omega⟩

theorem readsBack_null : ReadsBack .null := by
  intro level room fuel s rest hfits hfuel hend hs
  obtain ⟨fuel, rfl⟩ := exists_fuel hfuel Nat.one_pos
  rw [prettyAt] at hs
  rw [value?, hs]
  rfl

theorem readsBack_bool (b : Bool) : ReadsBack (.bool b) := by
  intro level room fuel s rest hfits hfuel hend hs
  obtain ⟨fuel, rfl⟩ := exists_fuel hfuel Nat.one_pos
  cases b with
  | true =>
    rw [prettyAt] at hs
    rw [value?, hs]
    rfl
  | false =>
    rw [prettyAt] at hs
    rw [value?, hs]
    rfl

theorem readsBack_number (n : Number) : ReadsBack (.number n) := by
  intro level room fuel s rest hfits hfuel hend hs
  obtain ⟨fuel, rfl⟩ := exists_fuel hfuel Nat.one_pos
  rw [prettyAt] at hs
  exact value?_numberText hfits hend hs

theorem readsBack_string (t : String) : ReadsBack (.string t) := by
  intro level room fuel s rest hfits hfuel hend hs
  obtain ⟨fuel, rfl⟩ := exists_fuel hfuel Nat.one_pos
  rw [prettyAt, toList_quoted, List.cons_append, List.append_assoc] at hs
  rw [value?, hs]
  simp only [List.singleton_append, Lexical.string?_quoted, Option.map_some]

theorem readsBack_array_nil : ReadsBack (.array []) := by
  intro level room fuel s rest hfits hfuel hend hs
  rw [Fits] at hfits
  obtain ⟨fuel, rfl⟩ := exists_fuel hfuel (steps_pos _)
  rw [prettyAt, prettyItems, block_nil] at hs
  change skipSpace s = '[' :: ']' :: rest at hs
  rw [value?, hs]
  simp only
  rw [if_neg (by omega)]
  rfl

theorem readsBack_array_cons {j : Json} {items : List Json} (h : ItemsReadBack (j :: items)) :
    ReadsBack (.array (j :: items)) := by
  intro level room fuel s rest hfits hfuel hend hs
  obtain ⟨fuel, rfl⟩ := exists_fuel hfuel (steps_pos _)
  rw [Fits] at hfits
  rw [steps] at hfuel
  obtain ⟨room, rfl⟩ := exists_fuel (Nat.le_refl room) hfits.1
  rw [prettyAt, prettyItems, block_cons, ← prettyItems] at hs
  obtain ⟨c, cs, hcs, hc⟩ := partLines_prettyItems_head hfits.2.1 level items rest
  have hskip : skipSpace ((newline (level + 1)).toList ++
      partLines level "]" (prettyItems level (j :: items)) rest) = c :: cs := by
    rw [skipSpace_newline, hcs, skipSpace_of_opensValue hc]
  have hitems : items? fuel (room + 1) .whole 0 (c :: cs) = some (j :: items, rest) := by
    apply h hfits.2 (by omega)
    rw [skipSpace_of_opensValue hc, hcs]
  have hopen : c ≠ ']' := by
    rintro rfl
    exact absurd hc (by decide)
  rw [value?_array (by omega) hs hskip hopen, Nat.add_sub_cancel, hitems]
  rfl

theorem readsBack_object_nil : ReadsBack (.object []) := by
  intro level room fuel s rest hfits hfuel hend hs
  rw [Fits] at hfits
  obtain ⟨fuel, rfl⟩ := exists_fuel hfuel (steps_pos _)
  rw [prettyAt, prettyMembers, block_nil] at hs
  change skipSpace s = '\x7b' :: '\x7d' :: rest at hs
  rw [value?, hs]
  simp only
  rw [if_neg (by omega)]
  rfl

theorem readsBack_object_cons {k : String} {j : Json} {members : List (String × Json)}
    (h : MembersReadBack ((k, j) :: members)) : ReadsBack (.object ((k, j) :: members)) := by
  intro level room fuel s rest hfits hfuel hend hs
  obtain ⟨fuel, rfl⟩ := exists_fuel hfuel (steps_pos _)
  rw [Fits] at hfits
  rw [steps] at hfuel
  obtain ⟨room, rfl⟩ := exists_fuel (Nat.le_refl room) hfits.1
  rw [prettyAt, prettyMembers, block_cons, ← prettyMembers] at hs
  obtain ⟨cs, hcs⟩ := partLines_prettyMembers_head level k j members rest
  have hskip : skipSpace ((newline (level + 1)).toList ++
      partLines level "\x7d" (prettyMembers level ((k, j) :: members)) rest) = '"' :: cs := by
    rw [skipSpace_newline, hcs, skipSpace_of_opensValue (by decide)]
  have hmembers : members? fuel (room + 1) .whole ('"' :: cs) =
      some ((k, j) :: members, rest) := by
    apply h hfits.2 (by omega)
    rw [skipSpace_of_opensValue (by decide), hcs]
  rw [value?_object (by omega) hs hskip (by decide), Nat.add_sub_cancel, hmembers]
  rfl

theorem itemsReadBack_singleton {j : Json} (h : ReadsBack j) : ItemsReadBack [j] := by
  intro level room fuel place s rest hfits hfuel hs
  rw [FitItems] at hfits
  rw [itemSteps, itemSteps] at hfuel
  obtain ⟨fuel, rfl⟩ := exists_fuel hfuel (by omega)
  rw [prettyItems, prettyItems, partLines_singleton] at hs
  have hvalue := h hfits.1 (by omega : steps j ≤ fuel) (endsNumber_newline level _) hs
  rw [items?, Shape.item, hvalue]
  simp only [skipSpace_newline]
  rfl

theorem itemsReadBack_cons {j j' : Json} {items : List Json} (h : ReadsBack j)
    (hrest : ItemsReadBack (j' :: items)) : ItemsReadBack (j :: j' :: items) := by
  intro level room fuel place s rest hfits hfuel hs
  rw [FitItems] at hfits
  rw [itemSteps] at hfuel
  obtain ⟨fuel, rfl⟩ := exists_fuel hfuel (by omega)
  rw [prettyItems, prettyItems, partLines_cons_cons, ← prettyItems] at hs
  have hvalue := h hfits.1 (by omega : steps j ≤ fuel) (endsNumber_comma _) hs
  have hitems : items? fuel (room + 1) .whole (place + 1)
      ((newline (level + 1)).toList ++
        partLines level "]" (prettyItems level (j' :: items)) rest) =
          some (j' :: items, rest) := by
    apply hrest hfits.2 (by omega)
    obtain ⟨c, cs, hcs, hc⟩ := partLines_prettyItems_head hfits.2.1 level items rest
    rw [skipSpace_newline, hcs, skipSpace_of_opensValue hc]
  rw [items?, Shape.item, hvalue]
  show (items? fuel (room + 1) .whole (place + 1) _).map (fun (js, r) => (j :: js, r)) = _
  rw [hitems]
  rfl

theorem membersReadBack_singleton {k : String} {j : Json} (h : ReadsBack j) :
    MembersReadBack [(k, j)] := by
  intro level room fuel s rest hfits hfuel hs
  rw [FitMembers] at hfits
  rw [memberSteps, memberSteps] at hfuel
  obtain ⟨fuel, rfl⟩ := exists_fuel hfuel (by omega)
  rw [prettyMembers, prettyMembers, partLines_singleton, toList_member] at hs
  have hvalue : value? fuel (room + 1) .whole
      (' ' :: ((prettyAt (level + 1) j).toList ++
        ((newline level).toList ++ ("\x7d".toList ++ rest)))) =
          some (j, (newline level).toList ++ ("\x7d".toList ++ rest)) :=
    h hfits.1 (by omega) (endsNumber_newline level _)
      (skipSpace_space_prettyAt hfits.1 (level + 1) _)
  rw [members?_of_member hs hvalue, skipSpace_newline]
  rfl

theorem membersReadBack_cons {k : String} {j : Json} {m : String × Json}
    {members : List (String × Json)} (h : ReadsBack j) (hrest : MembersReadBack (m :: members)) :
    MembersReadBack ((k, j) :: m :: members) := by
  intro level room fuel s rest hfits hfuel hs
  rw [FitMembers] at hfits
  rw [memberSteps] at hfuel
  obtain ⟨fuel, rfl⟩ := exists_fuel hfuel (by omega)
  rw [prettyMembers, prettyMembers, partLines_cons_cons, ← prettyMembers, toList_member] at hs
  have hvalue : value? fuel (room + 1) .whole
      (' ' :: ((prettyAt (level + 1) j).toList ++ ',' :: ((newline (level + 1)).toList ++
        partLines level "\x7d" (prettyMembers level (m :: members)) rest))) =
          some (j, ',' :: ((newline (level + 1)).toList ++
            partLines level "\x7d" (prettyMembers level (m :: members)) rest)) :=
    h hfits.1 (by omega) (endsNumber_comma _) (skipSpace_space_prettyAt hfits.1 (level + 1) _)
  have hmembers : members? fuel (room + 1) .whole
      ((newline (level + 1)).toList ++
        partLines level "\x7d" (prettyMembers level (m :: members)) rest) =
          some (m :: members, rest) := by
    apply hrest hfits.2 (by omega)
    obtain ⟨cs, hcs⟩ := partLines_prettyMembers_head level m.1 m.2 members rest
    rw [skipSpace_newline, hcs, skipSpace_of_opensValue (by decide)]
  rw [members?_of_member hs hvalue]
  show (members? fuel (room + 1) .whole _).map (fun (ms, r) => ((k, j) :: ms, r)) = _
  rw [hmembers]
  rfl

mutual

theorem readsBack : (j : Json) → ReadsBack j
  | .null => readsBack_null
  | .bool b => readsBack_bool b
  | .number n => readsBack_number n
  | .string t => readsBack_string t
  | .array [] => readsBack_array_nil
  | .array (j :: items) => readsBack_array_cons (itemsReadBack (j :: items) (List.cons_ne_nil _ _))
  | .object [] => readsBack_object_nil
  | .object ((k, j) :: members) =>
    readsBack_object_cons (membersReadBack ((k, j) :: members) (List.cons_ne_nil _ _))

theorem itemsReadBack : (items : List Json) → items ≠ [] → ItemsReadBack items
  | [], h => absurd rfl h
  | [j], _ => itemsReadBack_singleton (readsBack j)
  | j :: j' :: items, _ =>
    itemsReadBack_cons (readsBack j) (itemsReadBack (j' :: items) (List.cons_ne_nil _ _))

theorem membersReadBack : (members : List (String × Json)) → members ≠ [] →
    MembersReadBack members
  | [], h => absurd rfl h
  | [(_, j)], _ => membersReadBack_singleton (readsBack j)
  | (_, j) :: m :: members, _ =>
    membersReadBack_cons (readsBack j) (membersReadBack (m :: members) (List.cons_ne_nil _ _))

end

end Reader

/-! ### Enough fuel -/

theorem newline_length_pos (level : Nat) : 0 < (newline level).toList.length := by
  rw [newline, String.toList_ofList]
  exact Nat.succ_pos _

theorem length_block_cons (opening closing : String) (level : Nat) (line : String)
    (lines : List String) :
    (block opening closing level (line :: lines)).toList.length =
      opening.toList.length + (newline (level + 1)).toList.length +
        (partLines level closing (line :: lines) []).length := by
  rw [← List.append_nil (String.toList _), block_cons, List.length_append, List.length_append]
  omega

mutual

theorem steps_le_length (level : Nat) :
    (j : Json) → steps j ≤ (prettyAt level j).toList.length + 1
  | .null | .bool _ | .number _ | .string _ | .array [] | .object [] => Nat.le_add_left ..
  | .array (j :: items) => by
    have hitems := itemSteps_le_length level (j :: items)
    rw [prettyItems] at hitems
    rw [steps, prettyAt, prettyItems, length_block_cons]
    omega
  | .object ((k, j) :: members) => by
    have hmembers := memberSteps_le_length level ((k, j) :: members)
    rw [prettyMembers] at hmembers
    rw [steps, prettyAt, prettyMembers, length_block_cons]
    omega

theorem itemSteps_le_length (level : Nat) : (items : List Json) →
    itemSteps items ≤ (partLines level "]" (prettyItems level items) []).length
  | [] => Nat.zero_le _
  | [j] => by
    have hvalue := steps_le_length (level + 1) j
    have hbreak := newline_length_pos level
    have hclosing : "]".toList.length = 1 := rfl
    rw [itemSteps, itemSteps, prettyItems, prettyItems, partLines_singleton, List.append_nil,
      List.length_append, List.length_append]
    omega
  | j :: j' :: items => by
    have hvalue := steps_le_length (level + 1) j
    have hitems := itemSteps_le_length level (j' :: items)
    have hbreak := newline_length_pos (level + 1)
    rw [prettyItems] at hitems
    rw [itemSteps, prettyItems, prettyItems, partLines_cons_cons, List.length_append,
      List.length_cons, List.length_append]
    omega

theorem memberSteps_le_length (level : Nat) : (members : List (String × Json)) →
    memberSteps members ≤ (partLines level "\x7d" (prettyMembers level members) []).length
  | [] => Nat.zero_le _
  | [(k, j)] => by
    have hvalue := steps_le_length (level + 1) j
    have hbreak := newline_length_pos level
    have hclosing : "\x7d".toList.length = 1 := rfl
    rw [memberSteps, memberSteps, prettyMembers, prettyMembers, partLines_singleton,
      String.toList_append, List.append_nil, List.length_append, List.length_append,
      List.length_append]
    omega
  | (k, j) :: m :: members => by
    have hvalue := steps_le_length (level + 1) j
    have hmembers := memberSteps_le_length level (m :: members)
    have hbreak := newline_length_pos (level + 1)
    rw [prettyMembers] at hmembers
    rw [memberSteps, prettyMembers, prettyMembers, partLines_cons_cons, String.toList_append,
      List.length_append, List.length_append, List.length_cons, List.length_append]
    omega

end

/-! ### The round trip -/

theorem endsNumber_of_blank {s : List Char} (h : skipSpace s = []) : EndsNumber s := by
  intro c hc
  obtain ⟨cs, rfl⟩ := List.head?_eq_some_iff.1 hc
  rw [skipSpace, List.dropWhile_cons] at h
  split at h
  · rename_i hspace
    simp only [Bool.or_eq_true, decide_eq_true_eq] at hspace
    rcases hspace with ((rfl | rfl) | rfl) | rfl <;> decide
  · cases h

/-- Indented text is read back as the value it was written for. -/
theorem parse?_pretty {j : Json} {more : String} (h : Fits (nestingLimit - 1) j)
    (hmore : skipSpace more.toList = []) : parse? (pretty j ++ more) = some j := by
  have hsteps := steps_le_length 0 j
  have htext : skipSpace (pretty j ++ more).toList = (prettyAt 0 j).toList ++ more.toList := by
    obtain ⟨c, cs, hcs, hc⟩ := prettyAt_head h 0
    rw [String.toList_append, pretty, hcs, List.cons_append, skipSpace_of_opensValue hc]
  have hvalue : Reader.value? (2 * (pretty j ++ more).toList.length + 2) nestingLimit .whole
      (pretty j ++ more).toList = some (j, more.toList) := by
    apply Reader.readsBack j h _ (endsNumber_of_blank hmore) htext
    rw [pretty, String.toList_append, List.length_append]
    omega
  rw [parse?, parseShape?, hvalue]
  simp only
  rw [hmore, if_pos List.isEmpty_nil]

end WorkspaceTemplates.Json

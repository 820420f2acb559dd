/-
  WorkspaceTemplates/Proofs/Files/Display.lean
  ============================================
  **Paths for the reader.**

  A path is cut by its parts and joined by its text, so a root may be written in many
  ways.  Only its parts count: those of a joined path are the parts of the root and the
  steps of what it was joined to (`parts_join`), and cutting off a root drops as many
  steps as it has, with all that means nothing among them (`relative?_join`).  What is
  left of a path below a root leads to it from there (`parts_join_of_relative?`).
-/
import WorkspaceTemplates.Proofs.Files.Path
import Mathlib.Data.List.DropRight
import Mathlib.Tactic.ByContra

namespace WorkspaceTemplates

namespace Path

variable {root path p : String} {segs : List String}

/-! ### Steps -/

/-- Whether a part leads on from the one before it.  Others only say where a path starts. -/
def Part.isStep : Part → Bool
  | .root => false
  | .here => false
  | .above => true
  | .name _ => true

/-- The steps of a path: names and ways up. -/
def steps (path : String) : List Part := (segments path).filterMap partOf?

theorem partOf?_eq_none_iff {s : String} : partOf? s = none ↔ isIdle s = true := by
  rw [partOf?]
  by_cases hs : isIdle s = true
  · simp [hs]
  · rw [if_neg hs]
    refine iff_of_false ?_ hs
    split <;> exact Option.some_ne_none _

theorem isStep_of_partOf? {s : String} {part : Part} (h : partOf? s = some part) :
    part.isStep = true := by
  rw [partOf?] at h
  split at h
  · cases h
  · split at h <;> cases h <;> rfl

theorem isStep_of_mem_steps {part : Part} (h : part ∈ steps path) : part.isStep = true := by
  obtain ⟨s, -, hs⟩ := List.mem_filterMap.1 h
  exact isStep_of_partOf? hs

/-- What a path starts from, when it says so. -/
def start (path : String) : List Part :=
  if isAbsolute path then [.root]
  else if (segments path).head? == some "." then [.here]
  else []

theorem parts_eq (path : String) : parts path = start path ++ steps path := by
  unfold parts start
  simp only
  split
  · rfl
  · split <;> rfl

theorem start_congr (habs : isAbsolute p = isAbsolute path)
    (hhead : (segments p).head? = (segments path).head?) : start p = start path := by
  rw [start, start, habs, hhead]

theorem start_cases (p : String) :
    start p = [] ∨ ∃ part : Part, part.isStep = false ∧ start p = [part] := by
  rw [start]
  split
  · exact .inr ⟨.root, rfl, rfl⟩
  · split
    · exact .inr ⟨.here, rfl, rfl⟩
    · exact .inl rfl

theorem parts_of_isAbsolute (h : isAbsolute p = true) : parts p = .root :: steps p := by
  rw [parts_eq, start, if_pos h]
  rfl

theorem parts_of_here (habs : isAbsolute p = false) (h : (segments p).head? = some ".") :
    parts p = .here :: steps p := by
  rw [parts_eq, start, if_neg (by simp [habs]), if_pos (by simp [h])]
  rfl

theorem parts_eq_steps (habs : isAbsolute p = false) (h : (segments p).head? ≠ some ".") :
    parts p = steps p := by
  rw [parts_eq, start, if_neg (by simp [habs]), if_neg (by simpa using h), List.nil_append]

theorem filter_isStep_parts (p : String) : (parts p).filter Part.isStep = steps p := by
  have hsteps : (steps p).filter Part.isStep = steps p :=
    List.filter_eq_self.2 fun part h => isStep_of_mem_steps h
  rw [parts_eq, List.filter_append, hsteps]
  obtain h | ⟨part, hpart, h⟩ := start_cases p
  · rw [h, List.filter_nil, List.nil_append]
  · rw [h, List.filter_cons_of_neg (by simp [hpart]), List.filter_nil, List.nil_append]

theorem isStep_of_mem_tail {part : Part} (h : part ∈ (parts p).tail) : part.isStep = true := by
  rw [parts_eq] at h
  obtain hstart | ⟨_, _, hstart⟩ := start_cases p
  · rw [hstart, List.nil_append] at h
    exact isStep_of_mem_steps (List.mem_of_mem_tail h)
  · rw [hstart] at h
    exact isStep_of_mem_steps h

/-- Behind the parts of a root a path has steps only. -/
theorem steps_of_append {more : List Part} (hne : parts root ≠ [])
    (h : parts root ++ more = parts path) : steps path = steps root ++ more := by
  have hmore : more.filter Part.isStep = more := by
    refine List.filter_eq_self.2 fun part hpart => isStep_of_mem_tail (p := path) ?_
    rw [← h, List.tail_append_of_ne_nil hne]
    exact List.mem_append_right _ hpart
  rw [← filter_isStep_parts, ← h, List.filter_append, filter_isStep_parts, hmore]

/-- A path that starts where its reader is, without saying so, starts with a step. -/
theorem eq_empty_or_isStep (habs : isAbsolute p = false) (h : (segments p).head? ≠ some ".") :
    p = "" ∨ ∃ s rest, segments p = s :: rest ∧ isIdle s = false := by
  cases hsegs : segments p with
  | nil => exact absurd hsegs (segments_ne_nil p)
  | cons s rest =>
    by_cases hs : isIdle s = true
    · left
      have hne : s ≠ "." := by
        rintro rfl
        exact h (by rw [hsegs]; rfl)
      have hempty : s = "" := by simpa [isIdle, hne] using hs
      -- with a further segment the path would be absolute
      have hrest : rest = [] := by
        by_contra hrest
        exact Bool.eq_false_iff.1 habs (isAbsolute_iff.2 ⟨rest, by rw [hsegs, hempty], hrest⟩)
      rw [← ofSegments_segments p, hsegs, hempty, hrest]
      rfl
    · exact .inr ⟨s, rest, rfl, by simpa using hs⟩

theorem parts_empty : parts "" = [] := by decide +kernel

/-- Only the empty path has no parts. -/
theorem eq_empty_of_parts_eq_nil (h : parts p = []) : p = "" := by
  have habs : isAbsolute p = false := by
    by_contra habs
    rw [parts_of_isAbsolute (by simpa using habs)] at h
    cases h
  have hhere : (segments p).head? ≠ some "." := by
    intro hhere
    rw [parts_of_here habs hhere] at h
    cases h
  obtain hempty | ⟨s, rest, hsegs, hs⟩ := eq_empty_or_isStep habs hhere
  · exact hempty
  · rw [parts_eq_steps habs hhere, steps, hsegs, List.filterMap_eq_nil_iff] at h
    have hidle := partOf?_eq_none_iff.1 (h s List.mem_cons_self)
    rw [hs] at hidle
    cases hidle

/-! ### Segments that mean nothing -/

theorem prefix_dropIdleEnd (segs : List String) : dropIdleEnd segs <+: segs :=
  List.rdropWhile_prefix isIdle segs

theorem dropIdleEnd_of_not_idle (h : ∀ s ∈ segs, isIdle s = false) : dropIdleEnd segs = segs := by
  refine (List.rdropWhile_eq_self_iff (p := isIdle)).2 fun hne => ?_
  rw [h _ (List.getLast_mem hne)]
  exact Bool.false_ne_true

theorem filterMap_dropWhile_isIdle (segs : List String) :
    (segs.dropWhile isIdle).filterMap partOf? = segs.filterMap partOf? := by
  induction segs with
  | nil => rfl
  | cons s segs ih =>
    by_cases hs : isIdle s = true
    · rw [List.dropWhile_cons_of_pos hs, ih,
        List.filterMap_cons_none (partOf?_eq_none_iff.2 hs)]
    · rw [List.dropWhile_cons_of_neg hs]

theorem filterMap_dropIdleEnd (segs : List String) :
    (dropIdleEnd segs).filterMap partOf? = segs.filterMap partOf? := by
  rw [dropIdleEnd, List.filterMap_reverse, filterMap_dropWhile_isIdle, List.filterMap_reverse,
    List.reverse_reverse]

/-- Whatever means nothing is no step: dropping named segments drops as many steps. -/
theorem filterMap_dropNamed (n : Nat) (segs : List String) :
    (dropNamed n segs).filterMap partOf? = (segs.filterMap partOf?).drop n := by
  induction segs generalizing n with
  | nil => cases n <;> simp [dropNamed]
  | cons s segs ih =>
    cases n with
    | zero => rw [dropNamed, List.drop_zero]
    | succ n =>
      rw [dropNamed]
      cases hs : partOf? s with
      | none => rw [if_pos (partOf?_eq_none_iff.1 hs), ih, List.filterMap_cons_none hs]
      | some part =>
        have hidle : ¬ isIdle s = true := by simp [← partOf?_eq_none_iff, hs]
        rw [if_neg hidle, ih, List.filterMap_cons_some hs, List.drop_succ_cons]

theorem dropNamed_suffix (n : Nat) (segs : List String) : dropNamed n segs <:+ segs := by
  induction segs generalizing n with
  | nil => cases n <;> exact List.suffix_refl []
  | cons s segs ih =>
    cases n with
    | zero => exact List.suffix_refl _
    | succ n =>
      rw [dropNamed]
      split
      · exact (ih (n + 1)).trans (List.suffix_cons s segs)
      · exact (ih n).trans (List.suffix_cons s segs)

/-- Dropping the steps of a stem leaves what follows it, what means nothing aside. -/
theorem dropWhile_dropNamed (stem rest : List String) :
    (dropNamed (stem.filterMap partOf?).length (stem ++ rest)).dropWhile isIdle =
      rest.dropWhile isIdle := by
  induction stem with
  | nil => rw [List.filterMap_nil, List.length_nil, dropNamed, List.nil_append]
  | cons s stem ih =>
    rw [List.cons_append]
    cases hs : partOf? s with
    | none =>
      have hidle := partOf?_eq_none_iff.1 hs
      rw [List.filterMap_cons_none hs]
      cases hn : (stem.filterMap partOf?).length with
      | zero =>
        rw [hn, dropNamed] at ih
        rw [dropNamed, List.dropWhile_cons_of_pos hidle, ih]
      | succ n =>
        rw [hn] at ih
        rw [dropNamed, if_pos hidle, ih]
    | some part =>
      have hidle : ¬ isIdle s = true := by simp [← partOf?_eq_none_iff, hs]
      rw [List.filterMap_cons_some hs, List.length_cons, dropNamed, if_neg hidle, ih]

/-! ### Segments put together -/

/-- Segments put together have the steps that they had. -/
theorem steps_ofSegments (hslash : ∀ s ∈ segs, '/' ∉ s.toList) :
    steps (ofSegments segs) = segs.filterMap partOf? := by
  by_cases hne : segs = []
  · subst hne
    decide +kernel
  · rw [steps, segments_ofSegments hne hslash]

theorem isAbsolute_ofSegments {s : String} (hslash : ∀ u ∈ s :: segs, '/' ∉ u.toList)
    (hs : s ≠ "") : isAbsolute (ofSegments (s :: segs)) = false := by
  apply Bool.eq_false_iff.2
  intro habs
  obtain ⟨rest, hcons, -⟩ := isAbsolute_iff.1 habs
  rw [segments_ofSegments (List.cons_ne_nil s segs) hslash] at hcons
  exact hs (List.cons.inj hcons).1

/-- Segments of which the first means something make a path that starts with a step. -/
theorem relative_ofSegments (hslash : ∀ s ∈ segs, '/' ∉ s.toList)
    (hhead : ∀ s ∈ segs.head?, isIdle s = false) :
    isAbsolute (ofSegments segs) = false ∧ (segments (ofSegments segs)).head? ≠ some "." := by
  cases segs with
  | nil => decide +kernel
  | cons s rest =>
    have hs := hhead s rfl
    constructor
    · apply isAbsolute_ofSegments hslash
      rintro rfl
      exact absurd hs (by decide)
    · rw [segments_ofSegments (List.cons_ne_nil s rest) hslash]
      rintro ⟨⟩
      exact absurd hs (by decide)

theorem parts_ofSegments (hslash : ∀ s ∈ segs, '/' ∉ s.toList)
    (hhead : ∀ s ∈ segs.head?, isIdle s = false) :
    parts (ofSegments segs) = segs.filterMap partOf? := by
  obtain ⟨habs, hhere⟩ := relative_ofSegments hslash hhead
  rw [parts_eq_steps habs hhere, steps_ofSegments hslash]

theorem parts_ofSegments_here (hslash : ∀ s ∈ segs, '/' ∉ s.toList) :
    parts (ofSegments ("." :: segs)) = .here :: segs.filterMap partOf? := by
  have hslash' : ∀ s ∈ "." :: segs, '/' ∉ s.toList := List.forall_mem_cons.2 ⟨by decide, hslash⟩
  have hsegs := segments_ofSegments (List.cons_ne_nil "." segs) hslash'
  rw [parts_of_here (isAbsolute_ofSegments hslash' (by decide)) (by rw [hsegs]; rfl),
    steps_ofSegments hslash']
  rfl

theorem parts_slash_ofSegments (hslash : ∀ s ∈ segs, '/' ∉ s.toList) :
    parts ("/" ++ ofSegments segs) = .root :: segs.filterMap partOf? := by
  have habs : isAbsolute ("/" ++ ofSegments segs) = true := isAbsolute_append (by decide) _
  rw [parts_of_isAbsolute habs, steps, segments_slash_append, ← steps_ofSegments hslash, steps]
  rfl

theorem mem_head?_of_dropIdleEnd {s : String} (h : s ∈ (dropIdleEnd segs).head?) :
    s ∈ segs.head? := by
  obtain ⟨rest, hrest⟩ := prefix_dropIdleEnd segs
  rw [← hrest, List.head?_append, Option.mem_def.1 h]
  rfl

/-- Without what means nothing at either end, segments make a path of the steps they had. -/
theorem relative_bare (hslash : ∀ s ∈ segs, '/' ∉ s.toList) :
    isAbsolute (ofSegments (dropIdleEnd (segs.dropWhile isIdle))) = false ∧
      (segments (ofSegments (dropIdleEnd (segs.dropWhile isIdle)))).head? ≠ some "." ∧
      steps (ofSegments (dropIdleEnd (segs.dropWhile isIdle))) = segs.filterMap partOf? := by
  have hslash' : ∀ s ∈ dropIdleEnd (segs.dropWhile isIdle), '/' ∉ s.toList := fun s hs =>
    hslash s ((List.dropWhile_sublist isIdle).subset ((prefix_dropIdleEnd _).subset hs))
  have hhead : ∀ s ∈ (dropIdleEnd (segs.dropWhile isIdle)).head?, isIdle s = false := by
    intro s hs
    have hnot := List.head?_dropWhile_not isIdle segs
    rw [mem_head?_of_dropIdleEnd hs] at hnot
    exact hnot
  obtain ⟨habs, hhere⟩ := relative_ofSegments hslash' hhead
  refine ⟨habs, hhere, ?_⟩
  rw [steps_ofSegments hslash', filterMap_dropIdleEnd, filterMap_dropWhile_isIdle]

/-! ### Joining -/

/-- A root keeps its steps when it loses the empty segment at its end. -/
theorem steps_of_stem {stem : List String}
    (h : segments root = stem ∨ segments root = stem ++ [""]) :
    steps root = stem.filterMap partOf? := by
  rw [steps]
  rcases h with h | h
  · rw [h]
  · rw [h, List.filterMap_append]
    exact List.append_nil _

/-- A joined path has the parts of its root and then the steps of what it was joined to. -/
theorem parts_join (root : String) (hp : isAbsolute p = false)
    (hhere : (segments p).head? ≠ some ".") : parts (join root p) = parts root ++ steps p := by
  obtain ⟨stem, hjoin, hroot, hempty⟩ := segments_join root hp
  have hsteps : steps (join root p) = steps root ++ steps p := by
    rw [steps, hjoin, List.filterMap_append, ← steps_of_stem hroot, ← steps]
  cases stem with
  | nil =>
    rw [hempty rfl, join_empty, parts_empty, List.nil_append, parts_eq_steps hp hhere]
  | cons s stem =>
    -- both paths start with the same segment
    have hhead : (segments (join root p)).head? = (segments root).head? := by
      rw [hjoin]
      rcases hroot with h | h <;> rw [h] <;> rfl
    rw [parts_eq, parts_eq root, start_congr (isAbsolute_join root hp) hhead, hsteps,
      List.append_assoc]

/-! ### Spelling -/

theorem steps_append_slash (a b : String) : steps (a ++ "/" ++ b) = steps a ++ steps b := by
  rw [steps, segments_append_slash, List.filterMap_append, steps, steps]

theorem steps_of_isIdle {s : String} (h : isIdle s = true) : steps s = [] := by
  have hcases : s = "" ∨ s = "." := by simpa [isIdle] using h
  rcases hcases with rfl | rfl <;> decide +kernel

theorem head?_segments_append_slash (a b : String) :
    (segments (a ++ "/" ++ b)).head? = (segments a).head? := by
  rw [segments_append_slash, List.head?_append_of_ne_nil _ (segments_ne_nil a)]

theorem isAbsolute_append_slash (a b : String) :
    isAbsolute (a ++ "/" ++ b) = (a.isEmpty || isAbsolute a) := by
  rw [String.append_assoc]
  by_cases ha : a = ""
  · subst ha
    rw [String.empty_append]
    exact isAbsolute_append (by decide) b
  · rw [isAbsolute_append ha]
    simp [ha]

/-- A slash more than needed, or a dot between slashes, makes no part of a path. -/
theorem parts_idle_between (a b : String) {s : String} (hs : isIdle s = true) :
    parts (a ++ "/" ++ s ++ "/" ++ b) = parts (a ++ "/" ++ b) := by
  have habs : isAbsolute (a ++ "/" ++ s ++ "/" ++ b) = isAbsolute (a ++ "/" ++ b) := by
    rw [isAbsolute_append_slash, isAbsolute_append_slash a s, isAbsolute_append_slash]
    simp
  have hhead : (segments (a ++ "/" ++ s ++ "/" ++ b)).head? = (segments (a ++ "/" ++ b)).head? := by
    simp only [head?_segments_append_slash]
  rw [parts_eq, parts_eq (a ++ "/" ++ b), start_congr habs hhead, steps_append_slash,
    steps_append_slash, steps_of_isIdle hs, List.append_nil, steps_append_slash]

/-- Neither does a slash at the end, or a dot behind it. -/
theorem parts_idle_end {a s : String} (ha : a ≠ "") (hs : isIdle s = true) :
    parts (a ++ "/" ++ s) = parts a := by
  have habs : isAbsolute (a ++ "/" ++ s) = isAbsolute a := by
    rw [String.append_assoc, isAbsolute_append ha]
  rw [parts_eq, parts_eq a, start_congr habs (head?_segments_append_slash a s),
    steps_append_slash, steps_of_isIdle hs, List.append_nil]

/-! ### Cutting off a root -/

theorem relative?_eq_none_iff : relative? root path = none ↔ ¬ parts root <+: parts path := by
  rw [← List.isPrefixOf_iff_prefix, relative?]
  by_cases h : (parts root).isPrefixOf (parts path) = true
  · rw [if_pos h]
    refine iff_of_false ?_ (not_not_intro h)
    split <;> exact Option.some_ne_none _
  · rw [if_neg h]
    exact iff_of_true rfl h

/-- The parts of a root alone tell what is cut off. -/
theorem relative?_congr {root' : String} (h : parts root = parts root') (path : String) :
    relative? root path = relative? root' path := by
  have hsteps : steps root = steps root' := by
    rw [← filter_isStep_parts, h, filter_isStep_parts]
  unfold steps at hsteps
  unfold relative?
  simp only
  rw [h, hsteps]

theorem relative?_empty (path : String) : relative? "" path = some (trimmed path) := by
  rw [relative?, parts_empty]
  rfl

theorem relative?_of_ne_empty (hne : root ≠ "") (h : parts root <+: parts path) :
    relative? root path = some (ofSegments
      (dropIdleEnd ((dropNamed (steps root).length (segments path)).dropWhile isIdle))) := by
  rw [relative?, if_pos (List.isPrefixOf_iff_prefix.2 h),
    if_neg fun hnil => hne (eq_empty_of_parts_eq_nil (List.isEmpty_iff.1 hnil))]
  rfl

/-- What a root was joined to is left when the root is cut off again. -/
theorem relative?_join (root : String) (hp : isAbsolute p = false)
    (hhere : (segments p).head? ≠ some ".") :
    relative? root (join root p) =
      some (ofSegments (dropIdleEnd ((segments p).dropWhile isIdle))) := by
  by_cases hempty : root = ""
  · have htrim : trimmed p = ofSegments (dropIdleEnd (segments p)) := by
      unfold trimmed
      simp only
      rw [if_neg (by simp [hp]), if_neg (by simpa using hhere)]
    rw [hempty, join_empty, relative?_empty, htrim]
    obtain rfl | ⟨s, rest, hsegs, hs⟩ := eq_empty_or_isStep hp hhere
    · decide +kernel
    · rw [hsegs, List.dropWhile_cons_of_neg (by simp [hs])]
  · have hprefix : parts root <+: parts (join root p) := by
      rw [parts_join root hp hhere]
      exact List.prefix_append _ _
    obtain ⟨stem, hjoin, hroot, -⟩ := segments_join root hp
    rw [relative?_of_ne_empty hempty hprefix, steps_of_stem hroot, hjoin, dropWhile_dropNamed]

/-- Trimming a path keeps its parts. -/
theorem parts_trimmed (path : String) : parts (trimmed path) = parts path := by
  have hslash {xs : List String} (h : ∀ s ∈ xs, s ∈ segments path) :
      ∀ s ∈ dropIdleEnd xs, '/' ∉ s.toList :=
    fun s hs => slash_not_mem_of_mem_segments (h s ((prefix_dropIdleEnd xs).subset hs))
  unfold trimmed
  simp only
  cases habs : isAbsolute path with
  | true =>
    obtain ⟨rest, hsegs, -⟩ := isAbsolute_iff.1 habs
    rw [if_pos rfl, parts_slash_ofSegments (hslash fun s hs => List.mem_of_mem_tail hs),
      filterMap_dropIdleEnd, parts_of_isAbsolute habs, steps, hsegs]
    rfl
  | false =>
    rw [if_neg Bool.false_ne_true]
    by_cases hhere : (segments path).head? = some "."
    · obtain ⟨rest, hsegs⟩ := List.head?_eq_some_iff.1 hhere
      rw [if_pos (by simp [hhere]),
        parts_ofSegments_here (hslash fun s hs => List.mem_of_mem_tail hs), filterMap_dropIdleEnd,
        parts_of_here habs hhere, steps, hsegs]
      rfl
    · rw [if_neg (by simpa using hhere)]
      obtain rfl | ⟨s, rest, hsegs, hs⟩ := eq_empty_or_isStep habs hhere
      · decide +kernel
      · have hhead : ∀ u ∈ (dropIdleEnd (segments path)).head?, isIdle u = false := by
          intro u hu
          have hmem := mem_head?_of_dropIdleEnd hu
          rw [hsegs] at hmem
          cases hmem
          exact hs
        rw [parts_ofSegments (hslash fun s hs => hs) hhead, filterMap_dropIdleEnd,
          parts_eq_steps habs hhere, steps]

/-- What is left of a path leads to it from the root that was cut off. -/
theorem parts_join_of_relative? {rest : String} (h : relative? root path = some rest) :
    parts (join root rest) = parts path := by
  have hprefix : parts root <+: parts path := by
    by_contra hnot
    rw [relative?_eq_none_iff.2 hnot] at h
    cases h
  by_cases hempty : root = ""
  · rw [hempty, relative?_empty] at h
    cases h
    rw [hempty, join_empty, parts_trimmed]
  · rw [relative?_of_ne_empty hempty hprefix] at h
    cases h
    have hslash : ∀ s ∈ dropNamed (steps root).length (segments path), '/' ∉ s.toList :=
      fun s hs => slash_not_mem_of_mem_segments ((dropNamed_suffix _ _).subset hs)
    obtain ⟨habs, hhere, hsteps⟩ := relative_bare hslash
    obtain ⟨more, hmore⟩ := hprefix
    have hpath : steps path = steps root ++ more :=
      steps_of_append (mt eq_empty_of_parts_eq_nil hempty) hmore
    calc
      parts (join root _) = parts root ++ _ := parts_join root habs hhere
      _ = parts root ++ (steps path).drop (steps root).length := by
        rw [hsteps, filterMap_dropNamed, ← steps]
      _ = parts path := by rw [hpath, List.drop_left, hmore]

/-! ### Display -/

/-- A text with slashes for backslashes. -/
def slashed (p : String) : String := p.map fun c => if c = '\\' then '/' else c

theorem display_eq (root path : String) :
    display root path = slashed ((relative? root path).getD path) := by
  apply String.toList_inj.1
  rw [display, slashed, String.toList_ofList, String.toList_map]

theorem display_congr {root' : String} (h : parts root = parts root') (path : String) :
    display root path = display root' path := by
  rw [display_eq, display_eq, relative?_congr h]

theorem slashed_of_notMem (h : '\\' ∉ p.toList) : slashed p = p := by
  apply String.toList_inj.1
  rw [slashed, String.toList_map]
  refine (List.map_congr_left fun c hc => ?_).trans (List.map_id _)
  rw [if_neg]
  · rfl
  · rintro rfl
    exact h hc

/-- A name without slashes of either kind. -/
structure IsPlainName (s : String) : Prop where
  ne_empty : s ≠ ""
  ne_here : s ≠ "."
  ne_above : s ≠ ".."
  no_slash : '/' ∉ s.toList
  no_backslash : '\\' ∉ s.toList

instance (s : String) : Decidable (IsPlainName s) :=
  decidable_of_iff (s ≠ "" ∧ s ≠ "." ∧ s ≠ ".." ∧ '/' ∉ s.toList ∧ '\\' ∉ s.toList)
    ⟨fun h => ⟨h.1, h.2.1, h.2.2.1, h.2.2.2.1, h.2.2.2.2⟩, fun h => ⟨h.1, h.2, h.3, h.4, h.5⟩⟩

theorem IsPlainName.not_idle {s : String} (h : IsPlainName s) : isIdle s = false := by
  simp [isIdle, h.ne_empty, h.ne_here]

/-- Names below a root are shown as they are. -/
theorem display_join_names (root : String) {names : List String}
    (h : ∀ s ∈ names, IsPlainName s) :
    display root (join root (ofSegments names)) = ofSegments names := by
  have hslash : ∀ s ∈ names, '/' ∉ s.toList := fun s hs => (h s hs).no_slash
  have hback : '\\' ∉ (ofSegments names).toList := by
    intro hmem
    obtain hc | ⟨s, hs, hc⟩ := mem_ofSegments hmem
    · exact absurd hc (by decide)
    · exact (h s hs).no_backslash hc
  obtain ⟨habs, hhere⟩ := relative_ofSegments hslash
    fun s hs => (h s (List.mem_of_mem_head? hs)).not_idle
  have hrest : ofSegments (dropIdleEnd ((segments (ofSegments names)).dropWhile isIdle)) =
      ofSegments names := by
    cases names with
    | nil => decide +kernel
    | cons s rest =>
      have hfirst := (h s List.mem_cons_self).not_idle
      rw [segments_ofSegments (List.cons_ne_nil s rest) hslash,
        List.dropWhile_cons_of_neg (by simp [hfirst]),
        dropIdleEnd_of_not_idle fun u hu => (h u hu).not_idle]
  rw [display_eq, relative?_join root habs hhere, Option.getD_some, hrest, slashed_of_notMem hback]

/-- An ordinary path below a root is shown as it is. -/
theorem display_join (root : String) (hp : Ordinary p) : display root (join root p) = p := by
  have hplain : ∀ s ∈ segments p, IsPlainName s := by
    intro s hs
    obtain ⟨hidle, habove, -⟩ := hp.isName s hs
    refine ⟨(hp.isName s hs).ne_empty, ?_, habove, slash_not_mem_of_mem_segments hs, ?_⟩
    · rintro rfl
      exact absurd hidle (by decide)
    · intro hback
      obtain ⟨cs, hcs, rfl⟩ := List.mem_map.1 hs
      rw [String.toList_ofList] at hback
      exact hp.no_backslash (Text.mem_of_mem_pieces hcs hback)
  have hshown := display_join_names root hplain
  rwa [ofSegments_segments] at hshown

/-- **What is shown of a path depends on the parts of the root, not on its text.**  Names below
    a root are shown as they are, however the root is written.  Doubled slashes, slashes at
    the end and dots in the root change nothing.  Of a path whose first parts are those of the
    root the rest is shown, which leads to the path from the root; any other path is shown
    whole. -/
theorem display_by_parts :
    (∀ (root : String) (names : List String), (∀ s ∈ names, IsPlainName s) →
      display root (join root (ofSegments names)) = ofSegments names) ∧
    (∀ a s b path : String, isIdle s = true →
      display (a ++ "/" ++ s ++ "/" ++ b) path = display (a ++ "/" ++ b) path) ∧
    (∀ root s path : String, root ≠ "" → isIdle s = true →
      display (root ++ "/" ++ s) path = display root path) ∧
    (∀ root path : String, parts root <+: parts path →
      ∃ rest, parts (join root rest) = parts path ∧ display root path = slashed rest) ∧
    ∀ root path : String, ¬ parts root <+: parts path → display root path = slashed path := by
  refine ⟨fun root names h => display_join_names root h, ?_, ?_, ?_, ?_⟩
  · intro a s b path hs
    exact display_congr (parts_idle_between a b hs) path
  · intro root s path hroot hs
    exact display_congr (parts_idle_end hroot hs) path
  · intro root path h
    obtain ⟨rest, hrest⟩ := Option.ne_none_iff_exists'.1
      (mt relative?_eq_none_iff.1 (not_not_intro h))
    exact ⟨rest, parts_join_of_relative? hrest, by rw [display_eq, hrest, Option.getD_some]⟩
  · intro root path h
    rw [display_eq, relative?_eq_none_iff.2 h, Option.getD_none]

/-- A root with dots, ways up and slashes at its end; and one whose text, but not whose parts,
    the path starts with. -/
theorem display_by_parts_dotted :
    (∀ s ∈ [".cursor", "rules"], IsPlainName s) ∧
      display "./a//../" (join "./a//../" ".cursor/rules") = ".cursor/rules" ∧
      isIdle "." = true ∧ display "/a/./b" "/a/b/c\\d" = display "/a/b" "/a/b/c\\d" ∧
      "a/.." ≠ "" ∧ isIdle "" = true ∧ display "a/../" "a/../c" = display "a/.." "a/../c" ∧
      parts "/a/." <+: parts "//a/b/./c/" ∧
      (∃ rest, parts (join "/a/." rest) = parts "//a/b/./c/" ∧
        display "/a/." "//a/b/./c/" = slashed rest) ∧
      ¬ parts "/a/b" <+: parts "/a/bc\\d" ∧ display "/a/b" "/a/bc\\d" = "/a/bc/d" := by
  have hnames : ∀ s ∈ [".cursor", "rules"], IsPlainName s := by decide +kernel
  have hbelow : parts "/a/." <+: parts "//a/b/./c/" := by decide +kernel
  have haside : ¬ parts "/a/b" <+: parts "/a/bc\\d" := by decide +kernel
  obtain ⟨hjoin, hbetween, hend, hrest, hwhole⟩ := display_by_parts
  refine ⟨hnames, ?_, rfl, ?_, by decide, rfl, ?_, hbelow, hrest _ _ hbelow, haside, ?_⟩
  · have hplace : ofSegments [".cursor", "rules"] = ".cursor/rules" := by decide +kernel
    rw [← hplace]
    exact hjoin "./a//../" [".cursor", "rules"] hnames
  · have hdotted : "/a" ++ "/" ++ "." ++ "/" ++ "b" = "/a/./b" := by decide +kernel
    have hplain : "/a" ++ "/" ++ "b" = "/a/b" := by decide +kernel
    rw [← hdotted, ← hplain]
    exact hbetween "/a" "." "b" "/a/b/c\\d" rfl
  · have hend' : "a/.." ++ "/" ++ "" = "a/../" := by decide +kernel
    rw [← hend']
    exact hend "a/.." "" "a/../c" (by decide) rfl
  · exact (hwhole _ _ haside).trans (by decide +kernel)

end Path

end WorkspaceTemplates

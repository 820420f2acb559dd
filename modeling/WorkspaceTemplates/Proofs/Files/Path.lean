/-
  WorkspaceTemplates/Proofs/Files/Path.lean
  =========================================
  **Paths below a root.**

  Everything about a path is said of its segments, and the segments of a joined path
  are those of the root, an empty one at its end aside, and those of what it is
  joined to (`segments_join`).  An ordinary path has names for segments only.  It
  leads on from every root, and its ancestors below the root are its own beginnings.
-/
import WorkspaceTemplates.Files.Path
import WorkspaceTemplates.Proofs.Text.Pieces
import Mathlib.Data.List.Induction

namespace WorkspaceTemplates

namespace Path

/-! ### Segments -/

theorem segments_ne_nil (p : String) : segments p ≠ [] := by
  rw [segments, Text.pieces_eq_splitOn]
  exact fun h => List.splitOn_ne_nil _ _ (List.map_eq_nil_iff.1 h)

theorem exists_segments_concat (p : String) : ∃ xs s, segments p = xs ++ [s] := by
  rcases List.eq_nil_or_concat (segments p) with hnil | ⟨xs, s, hsegs⟩
  · exact absurd hnil (segments_ne_nil p)
  · exact ⟨xs, s, by rw [hsegs, List.concat_eq_append]⟩

theorem ofSegments_segments (p : String) : ofSegments (segments p) = p := by
  apply String.toList_inj.1
  rw [ofSegments, String.toList_intercalate, segments, List.map_map, Text.pieces_eq_splitOn]
  have hid : String.toList ∘ String.ofList = id := funext fun s => String.toList_ofList
  rw [hid, List.map_id]
  exact List.intercalate_splitOn '/'

theorem segments_ofSegments {xs : List String} (hne : xs ≠ [])
    (h : ∀ s ∈ xs, '/' ∉ s.toList) : segments (ofSegments xs) = xs := by
  rw [segments, ofSegments, String.toList_intercalate, Text.pieces_eq_splitOn]
  have hcut : (['/'].intercalate (xs.map String.toList)).splitOn '/' = xs.map String.toList := by
    apply List.splitOn_intercalate
    · intro l hl
      obtain ⟨s, hs, rfl⟩ := List.mem_map.1 hl
      exact h s hs
    · exact fun hnil => hne (List.map_eq_nil_iff.1 hnil)
  show List.map String.ofList ((['/'].intercalate (xs.map String.toList)).splitOn '/') = xs
  rw [hcut, List.map_map]
  have hid : String.ofList ∘ String.toList = id := funext fun s => String.ofList_toList
  rw [hid, List.map_id]

/-- A character of a path is that of a segment, or it stands between two of them. -/
theorem mem_ofSegments {xs : List String} {c : Char} (h : c ∈ (ofSegments xs).toList) :
    c = '/' ∨ ∃ s ∈ xs, c ∈ s.toList := by
  induction xs with
  | nil => cases h
  | cons s xs ih =>
    by_cases hxs : xs = []
    · rw [hxs, ofSegments, String.intercalate_singleton] at h
      exact .inr ⟨s, List.mem_cons_self, h⟩
    · rw [ofSegments, String.intercalate_cons_of_ne_nil hxs, String.toList_append,
        String.toList_append] at h
      rcases List.mem_append.1 h with h | h
      · rcases List.mem_append.1 h with h | h
        · exact .inr ⟨s, List.mem_cons_self, h⟩
        · exact .inl (List.mem_singleton.1 h)
      · obtain hslash | ⟨u, hu, hc⟩ := ih h
        · exact .inl hslash
        · exact .inr ⟨u, List.mem_cons_of_mem s hu, hc⟩

/-- The bytes of some segments, each with a slash before it. -/
def bytes : List String → Nat
  | [] => 0
  | s :: rest => s.utf8ByteSize + 1 + bytes rest

theorem bytes_append (xs ys : List String) : bytes (xs ++ ys) = bytes xs + bytes ys := by
  induction xs with
  | nil => rw [List.nil_append, bytes, Nat.zero_add]
  | cons s xs ih =>
    rw [List.cons_append, bytes, bytes, ih]
    exact (Nat.add_assoc _ _ _).symm

theorem bytes_replicate (n : Nat) (s : String) :
    bytes (List.replicate n s) = n * (s.utf8ByteSize + 1) := by
  induction n with
  | zero => rw [List.replicate_zero, bytes, Nat.zero_mul]
  | succ n ih => rw [List.replicate_succ, bytes, ih, Nat.succ_mul, Nat.add_comm]

/-- A path has a slash before each of its segments, but for the first one. -/
theorem utf8ByteSize_ofSegments {xs : List String} (hne : xs ≠ []) :
    (ofSegments xs).utf8ByteSize + 1 = bytes xs := by
  induction xs with
  | nil => exact absurd rfl hne
  | cons s xs ih =>
    by_cases hxs : xs = []
    · rw [hxs, ofSegments, String.intercalate_singleton]
      rfl
    · rw [bytes, ← ih hxs, ofSegments, String.intercalate_cons_of_ne_nil hxs,
        String.utf8ByteSize_append, String.utf8ByteSize_append, ofSegments]
      have hslash : "/".utf8ByteSize = 1 := rfl
      omega

theorem segments_append_slash (a b : String) :
    segments (a ++ "/" ++ b) = segments a ++ segments b := by
  rw [segments, segments, segments, String.toList_append, String.toList_append,
    Text.pieces_eq_splitOn, Text.pieces_eq_splitOn, Text.pieces_eq_splitOn, ← List.map_append]
  show List.map String.ofList ((a.toList ++ ['/'] ++ b.toList).splitOn '/') = _
  rw [List.append_assoc, List.singleton_append, List.splitOn_append_cons_self]

theorem segments_slash_append (p : String) : segments ("/" ++ p) = "" :: segments p := by
  have hempty : segments "" = [""] := by decide +kernel
  have hsplit := segments_append_slash "" p
  rwa [String.empty_append, hempty] at hsplit

theorem segments_append_slash_end (p : String) : segments (p ++ "/") = segments p ++ [""] := by
  have hempty : segments "" = [""] := by decide +kernel
  have hsplit := segments_append_slash p ""
  rwa [String.append_empty, hempty] at hsplit

theorem slash_not_mem_of_mem_segments {p s : String} (h : s ∈ segments p) : '/' ∉ s.toList := by
  obtain ⟨l, hl, rfl⟩ := List.mem_map.1 h
  rw [String.toList_ofList]
  exact Text.not_mem_of_mem_pieces hl

/-- An absolute path has an empty first segment and a further one. -/
theorem isAbsolute_iff {p : String} :
    isAbsolute p = true ↔ ∃ rest, segments p = "" :: rest ∧ rest ≠ [] := by
  rw [isAbsolute, beq_iff_eq, segments, Text.pieces_eq_splitOn]
  cases p.toList with
  | nil => simp
  | cons c cs =>
    rw [List.splitOn_cons_eq_if_modifyHead]
    by_cases hc : c = '/'
    · rw [if_pos (beq_iff_eq.2 hc), hc]
      constructor
      · intro _
        exact ⟨(cs.splitOn '/').map String.ofList, rfl, by simp⟩
      · intro _
        rfl
    · rw [if_neg (by simpa using hc)]
      constructor
      · intro h
        exact absurd (Option.some.inj h) hc
      · rintro ⟨rest, h, -⟩
        cases hs : cs.splitOn '/' with
        | nil => exact absurd hs (List.splitOn_ne_nil '/' cs)
        | cons q qs =>
          rw [hs] at h
          have hfirst := (List.cons.inj h).1
          rw [← String.toList_inj, String.toList_ofList] at hfirst
          exact absurd hfirst (List.cons_ne_nil c q)

/-- Where a path starts is told by its first character. -/
theorem isAbsolute_append {p : String} (hne : p ≠ "") (q : String) :
    isAbsolute (p ++ q) = isAbsolute p := by
  obtain ⟨c, cs, hc⟩ := List.exists_cons_of_ne_nil (mt String.toList_eq_nil_iff.1 hne)
  rw [isAbsolute, isAbsolute, String.toList_append, hc]
  rfl

theorem getLast?_segments {p : String} (hne : p ≠ "") (hlast : p.toList.getLast? ≠ some '/') :
    (segments p).getLast? ≠ some "" := by
  intro h
  obtain ⟨init, hinit⟩ := List.getLast?_eq_some_iff.1 h
  have hp := ofSegments_segments p
  rw [hinit, ofSegments] at hp
  cases init with
  | nil => exact hne (by rw [← hp]; rfl)
  | cons s init =>
    rw [String.intercalate_append_of_ne_nil (List.cons_ne_nil s init) (List.cons_ne_nil "" []),
      String.intercalate_singleton, String.append_empty] at hp
    apply hlast
    rw [← hp, String.toList_append]
    exact List.getLast?_concat

/-! ### Joining -/

theorem join_empty (p : String) : join "" p = p := by
  rw [join]
  split
  · rfl
  · exact String.empty_append

/-- Joining puts the segments of a relative path behind those of the root.  An empty segment at
    the end of the root is lost. -/
theorem segments_join (root : String) {p : String} (hp : isAbsolute p = false) :
    ∃ stem, segments (join root p) = stem ++ segments p ∧
      (segments root = stem ∨ segments root = stem ++ [""]) ∧ (stem = [] → root = "") := by
  by_cases hempty : root = ""
  · subst hempty
    exact ⟨[], by rw [join_empty, List.nil_append], .inr rfl, fun _ => rfl⟩
  · rw [join, if_neg (by simp [hp])]
    by_cases hslash : root.toList.getLast? = some '/'
    · obtain ⟨front, hfront⟩ := List.getLast?_eq_some_iff.1 hslash
      have hroot : root = String.ofList front ++ "/" := by
        rw [← String.toList_inj, hfront, String.toList_append, String.toList_ofList]
        rfl
      refine ⟨segments (String.ofList front), ?_, .inr ?_, fun h => absurd h (segments_ne_nil _)⟩
      · rw [if_pos (by simp [hslash]), hroot, segments_append_slash]
      · rw [hroot, segments_append_slash_end]
    · refine ⟨segments root, ?_, .inl rfl, fun h => absurd h (segments_ne_nil _)⟩
      rw [if_neg (by simp [hempty, hslash]), segments_append_slash]

theorem isAbsolute_of_mem_segments {p s : String} (h : s ∈ segments p) : isAbsolute s = false := by
  have hslash := slash_not_mem_of_mem_segments h
  rw [isAbsolute]
  cases hs : s.toList with
  | nil => rfl
  | cons c cs =>
    rw [hs] at hslash
    have hc : c ≠ '/' := by
      rintro rfl
      exact hslash List.mem_cons_self
    simpa using hc

theorem exists_join_eq (root : String) : ∃ r, ∀ p, isAbsolute p = false → join root p = r ++ p := by
  by_cases h : (root.isEmpty || root.toList.getLast? == some '/') = true
  · refine ⟨root, ?_⟩
    intro p hp
    rw [join, if_neg (by simp [hp]), if_pos h]
  · refine ⟨root ++ "/", ?_⟩
    intro p hp
    rw [join, if_neg (by simp [hp]), if_neg h]

theorem isAbsolute_join (root : String) {p : String} (hp : isAbsolute p = false) :
    isAbsolute (join root p) = isAbsolute root := by
  by_cases hempty : root = ""
  · subst hempty
    rw [join_empty, hp]
    rfl
  · rw [join, if_neg (by simp [hp])]
    split
    · exact isAbsolute_append hempty p
    · rw [String.append_assoc, isAbsolute_append hempty]

/-! ### Ancestors -/

theorem namedEnds_append (before xs ys : List String) :
    namedEnds before (xs ++ ys) = namedEnds before xs ++ namedEnds (before ++ xs) ys := by
  induction xs generalizing before with
  | nil => rw [List.nil_append, List.append_nil, namedEnds, List.nil_append]
  | cons x xs ih =>
    rw [List.cons_append, namedEnds, namedEnds, ih, List.append_cons before x xs]
    by_cases hx : isIdle x = true
    · rw [if_pos hx, if_pos hx]
    · rw [if_neg hx, if_neg hx, List.cons_append]

theorem exists_of_mem_namedEnds {before xs : List String} {a : String}
    (h : a ∈ namedEnds before xs) :
    ∃ pre s post, xs = pre ++ s :: post ∧ isIdle s = false ∧
      a = ofSegments (before ++ pre ++ [s]) := by
  induction xs generalizing before with
  | nil => cases h
  | cons x xs ih =>
    rw [namedEnds] at h
    have hrest (hmem : a ∈ namedEnds (before ++ [x]) xs) :
        ∃ pre s post, x :: xs = pre ++ s :: post ∧ isIdle s = false ∧
          a = ofSegments (before ++ pre ++ [s]) := by
      obtain ⟨pre, s, post, rfl, hs, rfl⟩ := ih hmem
      exact ⟨x :: pre, s, post, rfl, hs, by rw [List.append_cons before x pre]⟩
    by_cases hx : isIdle x = true
    · rw [if_pos hx] at h
      exact hrest h
    · rw [if_neg hx] at h
      rcases List.mem_cons.1 h with rfl | h
      · exact ⟨[], x, xs, rfl, by simpa using hx, by rw [List.append_nil]⟩
      · exact hrest h

theorem tail_ancestors {path s : String} {xs : List String} (h : segments path = xs ++ [s])
    (hs : isIdle s = false) : (ancestors path).tail = (namedEnds [] xs).reverse := by
  have hidle : ¬ isIdle s = true := by rw [hs]; exact Bool.false_ne_true
  rw [ancestors, h, namedEnds_append, namedEnds, namedEnds, if_neg hidle, List.reverse_append]
  rfl

/-- Without its last name a path is that of its directory. -/
theorem parent_eq {path u s : String} {xs : List String} (h : segments path = xs ++ [u] ++ [s])
    (hu : isIdle u = false) (hs : isIdle s = false) : parent path = ofSegments (xs ++ [u]) := by
  have hends : namedEnds [] (xs ++ [u]) = namedEnds [] xs ++ [ofSegments (xs ++ [u])] := by
    simp [namedEnds_append, namedEnds, hu]
  rw [parent, tail_ancestors h hs, hends, List.reverse_append]
  rfl

/-- An ancestor is a beginning of its path which ends in something. -/
theorem segments_of_mem_namedEnds {path a : String} {xs ys : List String}
    (hpath : segments path = xs ++ ys) (h : a ∈ namedEnds [] xs) :
    ∃ pre s post, xs = pre ++ s :: post ∧ isIdle s = false ∧ segments a = pre ++ [s] ∧
      isAbsolute a = isAbsolute path := by
  obtain ⟨pre, s, post, rfl, hs, rfl⟩ := exists_of_mem_namedEnds h
  rw [List.nil_append]
  have hsegs : segments (ofSegments (pre ++ [s])) = pre ++ [s] := by
    apply segments_ofSegments (by simp)
    intro u hu
    apply slash_not_mem_of_mem_segments (p := path)
    rw [hpath]
    rcases List.mem_append.1 hu with hu | hu
    · simp [hu]
    · rw [List.mem_singleton.1 hu]
      simp
  refine ⟨pre, s, post, rfl, hs, hsegs, ?_⟩
  have hne : s ≠ "" := by
    rintro rfl
    exact absurd hs (by decide)
  rw [Bool.eq_iff_iff, isAbsolute_iff, isAbsolute_iff, hsegs, hpath]
  cases pre with
  | nil => simp [hne]
  | cons u pre =>
    have hfront (rest : List String) :
        (∃ more, u :: (pre ++ s :: rest) = "" :: more ∧ more ≠ []) ↔ u = "" := by
      constructor
      · rintro ⟨more, h, -⟩
        exact (List.cons.inj h).1
      · rintro rfl
        exact ⟨_, rfl, by simp⟩
    rw [List.cons_append, hfront, List.cons_append, List.cons_append, List.append_assoc,
      List.cons_append, hfront]

/-- The last named end stops at the last segment that means something. -/
theorem namedEnds_cases (before xs : List String) :
    ((∀ s ∈ xs, isIdle s = true) ∧ namedEnds before xs = []) ∨
      ∃ pre s post, xs = pre ++ s :: post ∧ isIdle s = false ∧ (∀ u ∈ post, isIdle u = true) ∧
        namedEnds before xs = namedEnds before pre ++ [ofSegments (before ++ pre ++ [s])] := by
  induction xs using List.reverseRecOn with
  | nil => exact .inl ⟨by simp, rfl⟩
  | append_singleton xs x ih =>
    by_cases hx : isIdle x = true
    · have hends : namedEnds before (xs ++ [x]) = namedEnds before xs := by
        simp [namedEnds_append, namedEnds, hx]
      rw [hends]
      rcases ih with ⟨hidle, hnil⟩ | ⟨pre, s, post, rfl, hs, hpost, hends'⟩
      · refine .inl ⟨?_, hnil⟩
        intro s hs
        rcases List.mem_append.1 hs with hs | hs
        · exact hidle s hs
        · exact List.mem_singleton.1 hs ▸ hx
      · refine .inr ⟨pre, s, post ++ [x], by simp, hs, ?_, hends'⟩
        intro u hu
        rcases List.mem_append.1 hu with hu | hu
        · exact hpost u hu
        · exact List.mem_singleton.1 hu ▸ hx
    · rw [Bool.not_eq_true] at hx
      exact .inr ⟨xs, x, [], rfl, hx, by simp, by simp [namedEnds_append, namedEnds, hx]⟩

/-- A path up to one of its segments. -/
theorem segments_end {path s : String} {above post : List String}
    (hpath : segments path = above ++ s :: post) :
    segments (ofSegments (above ++ [s])) = above ++ [s] := by
  apply segments_ofSegments (by simp)
  intro u hu
  apply slash_not_mem_of_mem_segments (p := path)
  rw [hpath]
  rcases List.mem_append.1 hu with hu | hu
  · simp [hu]
  · rw [List.mem_singleton.1 hu]
    simp

theorem eq_end_append {path s : String} {above post : List String}
    (hpath : segments path = above ++ s :: post) :
    ∃ rest, path = ofSegments (above ++ [s]) ++ rest := by
  by_cases hpost : post = []
  · subst hpost
    refine ⟨"", ?_⟩
    rw [← hpath, ofSegments_segments, String.append_empty]
  · refine ⟨"/" ++ ofSegments post, ?_⟩
    have hrest : segments (ofSegments post) = post := by
      apply segments_ofSegments hpost
      intro u hu
      apply slash_not_mem_of_mem_segments (p := path)
      rw [hpath]
      simp [hu]
    rw [← ofSegments_segments path, ← String.append_assoc,
      ← ofSegments_segments (ofSegments (above ++ [s]) ++ "/" ++ ofSegments post),
      segments_append_slash, segments_end hpath, hrest, hpath, List.append_assoc]
    rfl

theorem isAbsolute_end {path s : String} {above post : List String}
    (hpath : segments path = above ++ s :: post) (hs : isIdle s = false) :
    isAbsolute (ofSegments (above ++ [s])) = isAbsolute path := by
  have hmem : ofSegments (above ++ [s]) ∈ namedEnds [] (above ++ [s]) := by
    simp [namedEnds_append, namedEnds, hs]
  have hsplit : segments path = (above ++ [s]) ++ post := by simp [hpath]
  obtain ⟨-, -, -, -, -, -, habs⟩ := segments_of_mem_namedEnds hsplit hmem
  exact habs

theorem getLast?_segments_of_mem_ancestors {path a : String} (h : a ∈ ancestors path) :
    (segments a).getLast? ≠ some "" := by
  obtain ⟨pre, s, post, -, hs, hsegs, -⟩ :=
    segments_of_mem_namedEnds (List.append_nil (segments path)).symm (List.mem_reverse.1 h)
  rw [hsegs, List.getLast?_concat]
  rintro ⟨⟩
  exact absurd hs (by decide)

theorem getLast?_ne_slash {path s : String} {above : List String}
    (hsegs : segments path = above ++ [s]) (hs : s ≠ "") : path.toList.getLast? ≠ some '/' := by
  intro hlast
  obtain ⟨init, hinit⟩ := List.getLast?_eq_some_iff.1 hlast
  have hpath : path = String.ofList init ++ "/" := by
    apply String.toList_inj.1
    simp [hinit]
  rw [hpath, segments_append_slash_end] at hsegs
  exact hs (List.singleton_inj.1 (List.append_inj_right' hsegs rfl)).symm

/-! ### Paths of names -/

/-- A path whose segments go down, each to an entry of a directory.  They may be too long to name
one. -/
structure Named (p : String) : Prop where
  not_idle : ∀ s ∈ segments p, isIdle s = false
  not_above : ".." ∉ segments p

theorem Named.isAbsolute {p : String} (h : Named p) : isAbsolute p = false := by
  apply Bool.eq_false_iff.2
  intro habs
  obtain ⟨rest, hsegs, -⟩ := isAbsolute_iff.1 habs
  exact absurd (h.not_idle "" (by rw [hsegs]; exact List.mem_cons_self)) (by decide)

/-- A path of names below a root ends in a name. -/
theorem exists_segments_join (root : String) {p : String} (h : Named p) :
    ∃ xs s, segments (join root p) = xs ++ [s] ∧ isIdle s = false := by
  obtain ⟨stem, hjoin, -⟩ := segments_join root h.isAbsolute
  obtain ⟨xs, s, hsegs⟩ := exists_segments_concat p
  exact ⟨stem ++ xs, s, by rw [hjoin, hsegs, List.append_assoc], h.not_idle s (by simp [hsegs])⟩

/-! ### Ordinary paths -/

/-- A segment that names an entry of a directory. -/
structure IsName (s : String) : Prop where
  not_idle : isIdle s = false
  not_above : s ≠ ".."
  not_overlong : isOverlong s = false

instance (s : String) : Decidable (IsName s) :=
  decidable_of_iff (isIdle s = false ∧ s ≠ ".." ∧ isOverlong s = false)
    ⟨fun h => ⟨h.1, h.2.1, h.2.2⟩, fun h => ⟨h.1, h.2, h.3⟩⟩

/-- A path whose segments are names, without backslashes. -/
structure Ordinary (p : String) : Prop where
  isName : ∀ s ∈ segments p, IsName s
  no_backslash : '\\' ∉ p.toList

instance (p : String) : Decidable (Ordinary p) :=
  decidable_of_iff ((∀ s ∈ segments p, IsName s) ∧ '\\' ∉ p.toList)
    ⟨fun h => ⟨h.1, h.2⟩, fun h => ⟨h.1, h.2⟩⟩

theorem IsName.ne_empty {s : String} (h : IsName s) : s ≠ "" := by
  rintro rfl
  exact absurd h.not_idle (by decide)

theorem named_of_isName {p : String} (h : ∀ s ∈ segments p, IsName s) : Named p where
  not_idle s hs := (h s hs).not_idle
  not_above hmem := (h ".." hmem).not_above rfl

theorem Ordinary.named {p : String} (h : Ordinary p) : Named p := named_of_isName h.isName

theorem Ordinary.isAbsolute {p : String} (h : Ordinary p) : isAbsolute p = false :=
  h.named.isAbsolute

/-- Two relative paths may be joined to a root at once. -/
theorem join_join (root : String) {p q : String} (hp : Ordinary p) (hq : isAbsolute q = false) :
    join (join root p) q = join root (p ++ "/" ++ q) := by
  obtain ⟨xs, s, hsegs⟩ := exists_segments_concat p
  have hslash := getLast?_ne_slash hsegs (hp.isName s (by simp [hsegs])).ne_empty
  have hne : p ≠ "" := by
    rintro rfl
    exact absurd (hp.isName "" (by decide +kernel)).not_idle (by decide)
  have habs : isAbsolute (p ++ "/" ++ q) = false := by
    rw [String.append_assoc, isAbsolute_append hne, hp.isAbsolute]
  obtain ⟨c, cs, hc⟩ := List.exists_cons_of_ne_nil (mt String.toList_eq_nil_iff.1 hne)
  have hlast (r : String) : ((r ++ p).toList.getLast? == some '/') = false := by
    rw [String.toList_append, List.getLast?_append, hc, List.getLast?_cons, Option.some_or,
      ← List.getLast?_cons, ← hc]
    simpa using hslash
  have hnext (r : String) : join (r ++ p) q = r ++ p ++ "/" ++ q := by
    have hfull : (r ++ p).isEmpty = false := by simp [hne]
    rw [join, if_neg (by simp [hq]), hlast, hfull]
    rfl
  obtain ⟨r, hr⟩ := exists_join_eq root
  rw [hr p hp.isAbsolute, hr _ habs, hnext]
  simp only [String.append_assoc]

theorem eq_of_segments_concat {p q s : String} (h : segments p = segments q ++ [s]) :
    p = q ++ "/" ++ s := by
  have hs : segments s = [s] := by
    have hone : ofSegments [s] = s := by simp [ofSegments]
    rw [← hone]
    apply segments_ofSegments (by simp)
    intro u hu
    rw [List.mem_singleton.1 hu]
    exact slash_not_mem_of_mem_segments (p := p) (by simp [h])
  rw [← ofSegments_segments p, h, ← hs, ← segments_append_slash, ofSegments_segments]

end Path

end WorkspaceTemplates

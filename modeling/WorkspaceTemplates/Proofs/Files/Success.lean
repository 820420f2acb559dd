/-
  WorkspaceTemplates/Proofs/Files/Success.lean
  ============================================
  **When a file can be written.**

  A file below a root can be written when its paths are not refused, no file stands
  where a directory above it has to be, and no directory stands in its own place
  (`exists_writeAtomically`).  The induction is on the names between the root and
  the file: a directory whose own directory is missing is made after that one, and
  the names of the root itself lead to directories already.
-/
import WorkspaceTemplates.Proofs.Files.Rooted

namespace WorkspaceTemplates

open WorkspaceTemplates.Path (IsName)

namespace Disk

/-! ### Following segments to the end -/

section Follow

variable {t : Tree} {place goal : Location}

theorem follow_idle {segs : List String} (hdir : t.kindAt? place = some .dir)
    (hidle : ∀ s ∈ segs, Path.isIdle s = true) : follow t place segs = .ok place := by
  induction segs with
  | nil => exact follow_nil t place
  | cons s segs ih =>
    rw [List.forall_mem_cons] at hidle
    rw [follow_cons_of_dir hdir, if_pos hidle.1, ih hidle.2]

theorem eq_of_follow_idle {segs : List String} (hidle : ∀ s ∈ segs, Path.isIdle s = true)
    (h : follow t place segs = .ok goal) : goal = place := by
  cases segs with
  | nil =>
    rw [follow_nil] at h
    exact (Except.ok.inj h).symm
  | cons s segs =>
    rw [follow_idle (kindAt?_of_follow_cons h) hidle] at h
    exact (Except.ok.inj h).symm

theorem follow_of_vacant (h : t.kindAt? place = none) (s : String) (rest : List String) :
    follow t place (s :: rest) = .error .notFound := by
  rw [follow_cons, Tree.kindAt?_eq_none_iff.1 h]

end Follow

/-! ### What may be in the way -/

/-- No file stands between a base and a location with some names, nor there. -/
def Passable (t : Tree) (base : Location) (names : List String) : Prop :=
  ∀ xs, xs <+: names → ∀ content, t.kindAt? (base ++ xs) ≠ some (.file content)

section Passable

variable {t : Tree} {base : Location} {names : List String}

theorem Passable.of_prefix {xs : List String} (h : Passable t base names) (hxs : xs <+: names) :
    Passable t base xs :=
  fun ys hys => h ys (hys.trans hxs)

theorem Passable.cases (h : Passable t base names) :
    t.kindAt? (base ++ names) = none ∨ t.kindAt? (base ++ names) = some .dir := by
  rcases hkind : t.kindAt? (base ++ names) with _ | content | _
  · exact .inl rfl
  · exact absurd hkind (h names (List.prefix_refl names) content)
  · exact .inr rfl

/-- Names lead to where they should, and a further segment finds nothing there. -/
theorem Passable.follow_vacant {s : String} (h : Passable t base names)
    (hn : ∀ u ∈ names, IsName u) (hbase : t.kindAt? base = some .dir)
    (hvacant : t.kindAt? (base ++ names) = none) :
    follow t base (names ++ [s]) = .error .notFound := by
  induction names generalizing base with
  | nil =>
    rw [List.append_nil, hbase] at hvacant
    cases hvacant
  | cons u names ih =>
    rw [List.forall_mem_cons] at hn
    have hstep : Passable t (base ++ [u]) names := by
      intro xs hxs
      rw [List.append_assoc]
      exact h (u :: xs) ((List.prefix_cons_inj u).2 hxs)
    rw [List.cons_append, follow_name hbase hn.1]
    rcases (h.of_prefix ⟨names, rfl⟩ : Passable t base [u]).cases with hnone | hdir
    · obtain ⟨v, rest, hrest⟩ : ∃ v rest, names ++ [s] = v :: rest :=
        List.exists_cons_of_ne_nil (by simp)
      rw [hrest, follow_of_vacant hnone]
    · apply ih hstep hn.2 hdir
      rw [List.append_assoc]
      exact hvacant

end Passable

/-! ### Paths that are not refused -/

section Refusal

variable {path s : String} {above post : List String}

theorem refusal?_eq_none_iff :
    refusal? path = none ↔
      '\x00' ∉ path.toList ∧ path.utf8ByteSize ≤ Path.limit ∧ path ≠ "" := by
  rw [refusal?]
  by_cases hnul : '\x00' ∈ path.toList
  · simp [hnul]
  · by_cases hlong : Path.limit < path.utf8ByteSize
    · simp [hnul, hlong, Nat.not_le.2 hlong]
    · by_cases hempty : path = ""
      · subst hempty
        simp
      · simp [hnul, hlong, hempty, Nat.le_of_not_lt hlong]

theorem refusal?_of_append {rest : String} (h : refusal? (path ++ rest) = none)
    (hne : path ≠ "") : refusal? path = none := by
  obtain ⟨hnul, hlong, -⟩ := refusal?_eq_none_iff.1 h
  rw [String.toList_append] at hnul
  rw [String.utf8ByteSize_append] at hlong
  exact refusal?_eq_none_iff.2
    ⟨fun hmem => hnul (List.mem_append_left _ hmem), by omega, hne⟩

theorem refusal?_end (hpath : Path.segments path = above ++ s :: post)
    (hs : Path.isIdle s = false) (h : refusal? path = none) :
    refusal? (Path.ofSegments (above ++ [s])) = none := by
  obtain ⟨rest, hrest⟩ := Path.eq_end_append hpath
  have hsegs := Path.segments_end hpath
  rw [hrest] at h
  apply refusal?_of_append h
  intro hempty
  have hnil : Path.segments "" = [] ++ [""] := by decide +kernel
  rw [hempty, hnil] at hsegs
  obtain rfl := List.singleton_inj.1 (List.append_inj_right' hsegs rfl)
  exact absurd hs (by decide)

/-- A path that leads further than another one shows that there is a directory. -/
theorem isDir_of_exists? {d : Disk} {p q : String} (hp : p ≠ "")
    (h : d.exists? (p ++ "/" ++ q) = true) : d.isDir p = true := by
  obtain ⟨loc, hloc, -⟩ := exists?_eq_true_iff.1 h
  obtain ⟨href, hfollow⟩ := locate_eq_ok_iff.1 hloc
  have horigin : d.origin (p ++ "/" ++ q) = d.origin p := by
    obtain ⟨c, cs, hc⟩ := List.exists_cons_of_ne_nil (mt String.toList_eq_nil_iff.1 hp)
    rw [origin, origin, Path.isAbsolute, Path.isAbsolute, String.append_assoc,
      String.toList_append, hc]
    rfl
  rw [horigin, Path.segments_append_slash, follow_append_eq_ok_iff] at hfollow
  obtain ⟨place, hplace, hrest⟩ := hfollow
  obtain ⟨s, rest, hsegs⟩ := List.exists_cons_of_ne_nil (Path.segments_ne_nil q)
  rw [hsegs] at hrest
  rw [String.append_assoc] at href
  exact isDir_eq_true_iff.2 ⟨place, locate_eq_ok_iff.2 ⟨refusal?_of_append href hp, hplace⟩,
    kindAt?_of_follow_cons hrest⟩

end Refusal

/-! ### Slots of directories -/

section Slot

variable {d : Disk} {path s : String} {above : List String} {place loc : Location}

/-- A slot is looked for by following the segments above it and then a dot. -/
theorem slot_eq (href : refusal? path = none) (hsegs : Path.segments path = above ++ [s])
    (hs : s ≠ "") :
    d.slot path =
      match follow d.tree (d.origin path) (above ++ ["."]) with
      | .error e => .error e
      | .ok place =>
        if s == "." || s == ".." then .ok (place, none)
        else if Path.isOverlong s then .error .invalidFilename
        else .ok (place, some s) := by
  have hback : (Path.segments path).reverse.dropWhile (· == "") = s :: above.reverse := by
    rw [hsegs, List.reverse_append]
    simp [hs]
  cases hfollow : follow d.tree (d.origin path) (above ++ ["."]) with
  | error e => simp only [slot, href, hback, List.reverse_reverse, hfollow]
  | ok place => simp only [slot, href, hback, List.reverse_reverse, hfollow]

theorem follow_here (hfollow : follow d.tree (d.origin path) above = .ok place)
    (hdir : d.tree.kindAt? place = some .dir) :
    follow d.tree (d.origin path) (above ++ ["."]) = .ok place := by
  rw [follow_append_of_ok hfollow, follow_idle hdir (by decide)]

theorem slot_of_follow (href : refusal? path = none) (hsegs : Path.segments path = above ++ [s])
    (hname : IsName s) (hfollow : follow d.tree (d.origin path) above = .ok place)
    (hdir : d.tree.kindAt? place = some .dir) : d.slot path = .ok (place, some s) := by
  have hdots : (s == "." || s == "..") = false := by
    have hidle := hname.not_idle
    simp only [Path.isIdle, Bool.or_eq_false_iff] at hidle
    simp [hidle.2, hname.not_above]
  rw [slot_eq href hsegs hname.ne_empty, follow_here hfollow hdir]
  simp [hdots, hname.not_overlong]

/-- The slot of a path that leads somewhere has no name, or it is where the path leads. -/
theorem slot_of_leads (href : refusal? path = none) (hsegs : Path.segments path = above ++ [s])
    (hs : Path.isIdle s = false)
    (hfollow : follow d.tree (d.origin path) (above ++ [s]) = .ok loc) :
    ∃ place, d.slot path = .ok (place, none) ∨
      (d.slot path = .ok (place, some s) ∧ loc = place ++ [s]) := by
  have hempty : s ≠ "" := by
    rintro rfl
    exact absurd hs (by decide)
  obtain ⟨place, habove, hlast⟩ := (follow_append_eq_ok_iff _ _).1 hfollow
  have hplace := kindAt?_of_follow_cons hlast
  refine ⟨place, ?_⟩
  by_cases hup : s = ".."
  · subst hup
    rw [slot_eq href hsegs hempty, follow_here habove hplace]
    exact .inl rfl
  · rw [follow_cons_of_dir hplace, if_neg (by simp [hs]), if_neg (by simp [hup])] at hlast
    split at hlast
    · cases hlast
    · rename_i hover
      have hname : IsName s := ⟨hs, hup, by simpa using hover⟩
      rw [follow_nil] at hlast
      exact .inr ⟨slot_of_follow href hsegs hname habove hplace, (Except.ok.inj hlast).symm⟩

end Slot

end Disk

/-! ### Making directories that can be made -/

namespace DiskM

open Disk (Grown Keeps Passable Rooted)
open Stateful

section MakeDir

variable {d : Disk} {path s : String} {above : List String} {place loc : Location}

theorem makeDir_of_dir (href : Disk.refusal? path = none)
    (hsegs : Path.segments path = above ++ [s]) (hs : Path.isIdle s = false)
    (hfollow : Disk.follow d.tree (d.origin path) (above ++ [s]) = .ok loc)
    (hdir : d.tree.kindAt? loc = some .dir) :
    (makeDir path).runOn d = (.error (.file .alreadyExists), d) := by
  rw [makeDir, runOn_bind, runOn_get]
  obtain ⟨place, hslot | ⟨hslot, rfl⟩⟩ := Disk.slot_of_leads href hsegs hs hfollow
  · simp [hslot]
  · obtain ⟨es, os, hes⟩ := Tree.kindAt?_eq_dir_iff.1 hdir
    simp [hslot, hes]

/-- Making some directories is done when the first one is there. -/
theorem makeNested_of_dir {more : List String} (href : Disk.refusal? path = none)
    (hsegs : Path.segments path = above ++ [s]) (hs : Path.isIdle s = false)
    (hfollow : Disk.follow d.tree (d.origin path) (above ++ [s]) = .ok loc)
    (hdir : d.tree.kindAt? loc = some .dir) :
    (makeNested (path :: more)).runOn d = (.ok (), d) := by
  have hloc : d.locate path = .ok loc := Disk.locate_eq_ok_iff.2 ⟨href, hsegs ▸ hfollow⟩
  rw [makeNested, runOn_tryCatch, makeDir_of_dir href hsegs hs hfollow hdir]
  simp [runOn_unlessDir, Disk.isDir_eq_true_iff.2 ⟨loc, hloc, hdir⟩]

/-- A directory in one that is there is made, or was there before. -/
theorem makeDir_of_free (href : Disk.refusal? path = none)
    (hsegs : Path.segments path = above ++ [s]) (hname : IsName s)
    (hfollow : Disk.follow d.tree (d.origin path) above = .ok place)
    (hplace : d.tree.kindAt? place = some .dir)
    (hfree : ∀ content, d.tree.kindAt? (place ++ [s]) ≠ some (.file content)) :
    (∃ d', (makeDir path).runOn d = (.ok (), d') ∧
      d'.tree.kindAt? (place ++ [s]) = some .dir) ∨
    ((makeDir path).runOn d = (.error (.file .alreadyExists), d) ∧ d.isDir path = true ∧
      d.tree.kindAt? (place ++ [s]) = some .dir) := by
  have hlast : Disk.follow d.tree (d.origin path) (above ++ [s]) = .ok (place ++ [s]) := by
    rw [Disk.follow_append_of_ok hfollow, Disk.follow_name hplace hname, Disk.follow_nil]
  rcases hkind : d.tree.kindAt? (place ++ [s]) with _ | content | _
  · have hslot := Disk.slot_of_follow href hsegs hname hfollow hplace
    have hput := Tree.kindAt?_put hplace (by rw [hkind]; exact nofun) Tree.kindAt?_emptyDir_cons
    refine .inl ⟨{ d with tree := d.tree.put place s Tree.emptyDir }, ?_, ?_⟩
    · rw [makeDir, runOn_bind, runOn_get]
      simp [hslot, Tree.kindAt?_eq_none_iff.1 hkind]
    · rw [hput, if_pos rfl]
      rfl
  · exact absurd hkind (hfree content)
  · exact .inr ⟨makeDir_of_dir href hsegs hname.not_idle hlast hkind,
      Disk.isDir_eq_true_iff.2 ⟨_, Disk.locate_eq_ok_iff.2 ⟨href, hsegs ▸ hlast⟩, hkind⟩, rfl⟩

theorem makeDir_of_vacant (href : Disk.refusal? path = none)
    (hsegs : Path.segments path = above ++ [s]) (hname : IsName s)
    (hfollow : Disk.follow d.tree (d.origin path) (above ++ ["."]) = .error .notFound) :
    (makeDir path).runOn d = (.error (.file .notFound), d) := by
  have hslot : d.slot path = .error .notFound := by
    rw [Disk.slot_eq href hsegs hname.ne_empty, hfollow]
  rw [makeDir, runOn_bind, runOn_get]
  simp [hslot]

end MakeDir

section MakeNested

variable {d : Disk} {path : String} {stem xs post : List String} {base : Location}

theorem makeNested_stem (href : Disk.refusal? path = none)
    (hsegs : Path.segments path = stem ++ post)
    (hstem : Disk.follow d.tree (d.origin path) stem = .ok base)
    (hbase : d.tree.kindAt? base = some .dir) :
    (makeNested (Path.namedEnds [] stem).reverse).runOn d = (.ok (), d) := by
  rcases Path.namedEnds_cases [] stem with ⟨-, hnil⟩ | ⟨pre, s, rest, rfl, hs, hrest, hends⟩
  · rw [hnil]
    rfl
  · rw [hends, List.reverse_concat', List.nil_append]
    rw [List.append_assoc, List.cons_append] at hsegs
    -- the segments after the last name mean nothing
    rw [List.append_cons] at hstem
    obtain ⟨mid, hmid, hidle⟩ := (Disk.follow_append_eq_ok_iff _ _).1 hstem
    obtain rfl := Disk.eq_of_follow_idle hrest hidle
    have horigin : d.origin (Path.ofSegments (pre ++ [s])) = d.origin path := by
      rw [Disk.origin, Disk.origin, Path.isAbsolute_end hsegs hs]
    rw [← horigin] at hmid
    exact makeNested_of_dir (Disk.refusal?_end hsegs hs href) (Path.segments_end hsegs) hs hmid
      hbase

section Step

variable {a s : String} {above more : List String} {place : Location}
  (href : Disk.refusal? a = none) (hsegs : Path.segments a = above ++ [s]) (hname : IsName s)

include href hsegs hname

/-- The first directory can be made, or is there, and then no other one is made. -/
theorem makeNested_of_place (hfollow : Disk.follow d.tree (d.origin a) above = .ok place)
    (hplace : d.tree.kindAt? place = some .dir)
    (hfree : ∀ content, d.tree.kindAt? (place ++ [s]) ≠ some (.file content)) :
    ∃ d', (makeNested (a :: more)).runOn d = (.ok (), d') ∧
      d'.tree.kindAt? (place ++ [s]) = some .dir := by
  rw [makeNested, runOn_tryCatch]
  rcases makeDir_of_free href hsegs hname hfollow hplace hfree with
    ⟨d', hrun, hdir⟩ | ⟨hrun, hthere, hdir⟩
  · exact ⟨d', by rw [hrun], hdir⟩
  · exact ⟨d, by simp [hrun, runOn_unlessDir, hthere], hdir⟩

/-- The first directory is made once its own directory has been made. -/
theorem makeNested_of_missing {d₁ : Disk}
    (hmissing : Disk.follow d.tree (d.origin a) (above ++ ["."]) = .error .notFound)
    (hmade : (makeNested more).runOn d = (.ok (), d₁))
    (hfollow : Disk.follow d₁.tree (d₁.origin a) above = .ok place)
    (hplace : d₁.tree.kindAt? place = some .dir)
    (hfree : ∀ content, d₁.tree.kindAt? (place ++ [s]) ≠ some (.file content)) :
    ∃ d', (makeNested (a :: more)).runOn d = (.ok (), d') ∧
      d'.tree.kindAt? (place ++ [s]) = some .dir := by
  rw [makeNested, runOn_tryCatch, makeDir_of_vacant href hsegs hname hmissing]
  simp only [if_true, runOn_bind, hmade, runOn_tryCatch]
  rcases makeDir_of_free href hsegs hname hfollow hplace hfree with
    ⟨d', hrun, hdir⟩ | ⟨hrun, hthere, hdir⟩
  · exact ⟨d', by rw [hrun], hdir⟩
  · exact ⟨d₁, by simp [hrun, runOn_unlessDir, hthere], hdir⟩

end Step

/-- Making the directories of a path keeps no file out of its place. -/
theorem grown_of_makeNested_ends {d' : Disk} (hsegs : Path.segments path = stem ++ post)
    (h : (makeNested (Path.namedEnds [] stem).reverse).runOn d = (.ok (), d')) :
    Grown (Path.namedEnds [] stem).reverse d d' := by
  apply grown_of_makeNested _ h
  intro a ha
  obtain ⟨pre, s, -, -, hs, hasegs, -⟩ :=
    Path.segments_of_mem_namedEnds hsegs (List.mem_reverse.1 ha)
  rw [hasegs, List.getLast?_concat]
  rintro ⟨⟩
  exact absurd hs (by decide)

/-- **Missing directories below a root can be made** when no file stands in their way. -/
theorem exists_makeNested (href : Disk.refusal? path = none)
    (hsegs : Path.segments path = stem ++ (xs ++ post))
    (hstem : Disk.follow d.tree (d.origin path) stem = .ok base)
    (hbase : d.tree.kindAt? base = some .dir) (hnames : ∀ s ∈ xs, IsName s)
    (hpass : Passable d.tree base xs) :
    ∃ d', (makeNested (Path.namedEnds [] (stem ++ xs)).reverse).runOn d = (.ok (), d') ∧
      d'.tree.kindAt? (base ++ xs) = some .dir := by
  -- the last directory is tried first, so the induction takes the names from the end
  induction xs using List.reverseRecOn generalizing post with
  | nil =>
    rw [List.append_nil, List.append_nil]
    exact ⟨d, makeNested_stem href hsegs hstem hbase, hbase⟩
  | append_singleton xs s ih =>
    have hname : IsName s := hnames s (by simp)
    have hnames : ∀ u ∈ xs, IsName u := fun u hu => hnames u (by simp [hu])
    have hfree := hpass _ (List.prefix_refl _)
    rw [← List.append_assoc] at hfree ⊢
    replace hpass : Passable d.tree base xs := hpass.of_prefix (List.prefix_append xs [s])
    have hends : (Path.namedEnds [] (stem ++ xs ++ [s])).reverse =
        Path.ofSegments (stem ++ xs ++ [s]) :: (Path.namedEnds [] (stem ++ xs)).reverse := by
      simp [Path.namedEnds_append, Path.namedEnds, hname.not_idle]
    have hsplit : Path.segments path = stem ++ xs ++ s :: post := by simp [hsegs]
    have hasegs := Path.segments_end hsplit
    have harefused := Disk.refusal?_end hsplit hname.not_idle href
    have haorigin : d.origin (Path.ofSegments (stem ++ xs ++ [s])) = d.origin path := by
      rw [Disk.origin, Disk.origin, Path.isAbsolute_end hsplit hname.not_idle]
    rw [← List.append_assoc, hends]
    rcases hpass.cases with hvacant | hplace
    · -- its own directory is missing: that one is made first, and keeps its place free
      have hsplit' : Path.segments path = stem ++ (xs ++ s :: post) := by simp [hsegs]
      obtain ⟨d₁, hmade, hplace⟩ := ih hsplit' hnames hpass
      have hgrown := grown_of_makeNested_ends hsplit hmade
      apply makeNested_of_missing harefused hasegs hname _ hmade _ hplace
      · intro content
        rcases hgrown.kinds (base ++ xs ++ [s]) with hsame | ⟨-, hdir, -⟩
        · rw [hsame]
          exact hfree content
        · rw [hdir]
          simp
      · rw [haorigin, List.append_assoc, Disk.follow_append_of_ok hstem]
        exact hpass.follow_vacant hnames hbase hvacant
      · rw [hgrown.keeps.origin, haorigin, Disk.follow_append_of_ok (hgrown.keeps.follow hstem)]
        exact Disk.follow_names_of_ne_none hnames (by simp [hplace])
    · apply makeNested_of_place harefused hasegs hname _ hplace hfree
      rw [haorigin, Disk.follow_append_of_ok hstem]
      exact Disk.follow_names_of_ne_none hnames (by simp [hplace])

end MakeNested

end DiskM

/-! ### Writing a file that can be written -/

namespace Disk

/-- The paths that are looked at when a file is written are not refused, and there is room for a
fresh name beside it. -/
structure Takes (d : Disk) (path : String) : Prop where
  whole : refusal? path = none
  dir : refusal? (d.absolute (Path.parent path)) = none
  room : (d.absolute (Path.parent path)).utf8ByteSize + freshRoom ≤ Path.limit

instance (d : Disk) (path : String) : Decidable (d.Takes path) :=
  decidable_of_iff (refusal? path = none ∧ refusal? (d.absolute (Path.parent path)) = none ∧
      (d.absolute (Path.parent path)).utf8ByteSize + freshRoom ≤ Path.limit)
    ⟨fun h => ⟨h.1, h.2.1, h.2.2⟩, fun h => ⟨h.1, h.2, h.3⟩⟩

/-- Nothing is in the way of a file with some names below a base. -/
structure Clear (t : Tree) (base : Location) (names : List String) : Prop where
  above : Passable t base names.dropLast
  free : t.kindAt? (base ++ names) ≠ some .dir

/-- The working directory is reached by its own path. -/
def WellPlaced (d : Disk) : Prop := d.Rooted (pathOf d.workDir) d.workDir

section Places

variable {d d' : Disk} {path s : String} {above : List String} {place : Location}

theorem Keeps.absolute (h : Keeps d d') (q : String) : d'.absolute q = d.absolute q := by
  rw [Disk.absolute, Disk.absolute, h.workDir]

theorem Keeps.takes (h : Keeps d d') (htakes : d.Takes path) : d'.Takes path := by
  refine ⟨htakes.whole, ?_, ?_⟩
  · rw [h.absolute]
    exact htakes.dir
  · rw [h.absolute]
    exact htakes.room

theorem Keeps.wellPlaced (h : Keeps d d') (hplaced : d.WellPlaced) : d'.WellPlaced := by
  rw [WellPlaced, h.workDir]
  exact Rooted.keeps hplaced h

theorem follow_parent (hsegs : Path.segments path = above ++ [s]) (hs : Path.isIdle s = false)
    (hfollow : follow d.tree (d.origin path) above = .ok place)
    (hplace : d.tree.kindAt? place = some .dir) :
    follow d.tree (d.origin (Path.parent path)) (Path.segments (Path.parent path)) =
      .ok place := by
  rw [Path.parent, Path.tail_ancestors hsegs hs]
  rcases Path.namedEnds_cases [] above with ⟨hidle, hnil⟩ | ⟨pre, u, rest, rfl, hu, hrest, hends⟩
  · -- nothing but the root of the path or the working directory is above its name
    obtain rfl := eq_of_follow_idle hidle hfollow
    have hroot : Path.segments "/" = ["", ""] := by decide +kernel
    have hhere : Path.segments "." = ["."] := by decide +kernel
    have hempty : Path.segments "" = [""] := by decide +kernel
    rw [hnil, List.reverse_nil]
    simp only
    split
    · rename_i habs
      have horigin : d.origin path = [] := by rw [origin, if_pos habs]
      rw [horigin] at hplace ⊢
      rw [hroot]
      exact follow_idle hplace (by decide)
    · rename_i habs
      have horigin : d.origin path = d.workDir := by rw [origin, if_neg habs]
      rw [horigin] at hplace ⊢
      split
      · rw [hhere]
        exact follow_idle hplace (by decide)
      · rw [hempty]
        exact follow_idle hplace (by decide)
  · rw [hends, List.reverse_concat', List.nil_append]
    simp only
    rw [List.append_assoc, List.cons_append] at hsegs
    rw [List.append_cons] at hfollow
    obtain ⟨mid, hmid, hidle⟩ := (follow_append_eq_ok_iff _ _).1 hfollow
    obtain rfl := eq_of_follow_idle hrest hidle
    rw [origin, Path.isAbsolute_end hsegs hu, Path.segments_end hsegs]
    exact hmid

/-- The absolute form of a path leads to where the path leads. -/
theorem locate_absolute {q : String} (hplaced : d.WellPlaced)
    (href : refusal? (d.absolute q) = none)
    (hfollow : follow d.tree (d.origin q) (Path.segments q) = .ok place) :
    d.locate (d.absolute q) = .ok place := by
  by_cases habs : Path.isAbsolute q = true
  · have hsame : d.absolute q = q := by rw [absolute, Path.join, if_pos habs]
    rw [hsame] at href ⊢
    exact locate_eq_ok_iff.2 ⟨href, hfollow⟩
  · rw [origin, if_neg habs] at hfollow
    exact (Rooted.locate_join_iff hplaced (by simpa using habs)).2 ⟨href, hfollow⟩

theorem holder_of_takes (hplaced : d.WellPlaced) (htakes : d.Takes path)
    (hsegs : Path.segments path = above ++ [s]) (hs : Path.isIdle s = false)
    (hfollow : follow d.tree (d.origin path) above = .ok place) {es : List (String × Tree)}
    {os : List (RawName × Tree)} (hplace : d.tree.find? place = some (.dir es os)) :
    d.holder path = .ok (place, es) := by
  have hdir := Tree.kindAt?_eq_dir_iff.2 ⟨es, os, hplace⟩
  have hloc := locate_absolute hplaced htakes.dir (follow_parent hsegs hs hfollow hdir)
  rw [holder, if_neg (Nat.not_lt.2 htakes.room), hloc]
  simp only [hplace]

theorem target_of_free (href : refusal? path = none)
    (hsegs : Path.segments path = above ++ [s]) (hname : IsName s)
    (hfollow : follow d.tree (d.origin path) above = .ok place)
    (hplace : d.tree.kindAt? place = some .dir)
    (hfree : d.tree.kindAt? (place ++ [s]) ≠ some .dir) : d.target path = .ok (place, s) := by
  have hnodir : ¬ (d.tree.find? (place ++ [s])).any Tree.isDir = true := by
    intro hany
    obtain ⟨u, hu, hdir⟩ := (Option.any_eq_true _ _).1 hany
    cases u with
    | file content => cases hdir
    | dir es os => exact hfree (Tree.kindAt?_eq_dir_iff.2 ⟨es, os, hu⟩)
  rw [target, slot_of_follow href hsegs hname hfollow hplace]
  simp only
  rw [if_neg (by simpa using Path.getLast?_ne_slash hsegs hname.ne_empty), if_neg hnodir]

end Places

end Disk

namespace DiskM

open Disk (Clear Grown Keeps Passable Prepared Rooted)

variable {d : Disk} {root p s : String} {base : Location} {xs : List String}

/-- The directories above a path below a root are made when no file stands in their way, whatever
becomes of the file itself. -/
theorem exists_makeNested_join (hroot : d.Rooted root base)
    (hp : ∀ u ∈ Path.segments p, IsName u) (href : Disk.refusal? (Path.join root p) = none)
    (hsegs : Path.segments p = xs ++ [s]) (hpass : Passable d.tree base xs) :
    ∃ d₁, (makeNested (Path.ancestors (Path.join root p)).tail).runOn d = (.ok (), d₁) ∧
      Prepared (base ++ Path.segments p) d d₁ ∧ d₁.tree.kindAt? (base ++ xs) = some .dir := by
  have hnamed := Path.named_of_isName hp
  obtain ⟨stem, hjoin, hstem⟩ := hroot.stem hnamed.isAbsolute
  rw [← Disk.origin_join d root hnamed.isAbsolute] at hstem
  have hs : Path.isIdle s = false := hnamed.not_idle s (by simp [hsegs])
  have hnames : ∀ u ∈ xs, IsName u := fun u hu => hp u (by simp [hsegs, hu])
  rw [hsegs] at hjoin
  have hlast : Path.segments (Path.join root p) = (stem ++ xs) ++ [s] := by simp [hjoin]
  obtain ⟨d₁, hmade, hdir⟩ := exists_makeNested href hjoin hstem hroot.dir hnames hpass
  rw [← Path.tail_ancestors hlast hs] at hmade
  exact ⟨d₁, hmade, prepared_of_makeNested (hroot.leads.join hnamed) hlast hs hmade, hdir⟩

/-- **A file that nothing is in the way of is written.** -/
theorem exists_writeAtomically (content : ByteArray) (hroot : d.Rooted root base)
    (hplaced : d.WellPlaced) (hp : ∀ u ∈ Path.segments p, IsName u)
    (htakes : d.Takes (Path.join root p)) (hclear : Clear d.tree base (Path.segments p)) :
    ∃ d', (writeAtomically (Path.join root p) content).runOn d = (.ok (), d') := by
  have habs := (Path.named_of_isName hp).isAbsolute
  obtain ⟨stem, hjoin, hstem⟩ := hroot.stem habs
  rw [← Disk.origin_join d root habs] at hstem
  obtain ⟨xs, s, hsegs⟩ := Path.exists_segments_concat p
  have hname : IsName s := hp s (by simp [hsegs])
  have hnames : ∀ u ∈ xs, IsName u := fun u hu => hp u (by simp [hsegs, hu])
  have hlast : Path.segments (Path.join root p) = (stem ++ xs) ++ [s] := by
    rw [hjoin, hsegs, List.append_assoc]
  have habove := hclear.above
  rw [hsegs, List.dropLast_concat] at habove
  obtain ⟨d₁, hmade, hprepared, hdir⟩ := exists_makeNested_join hroot hp htakes.whole hsegs habove
  have hkeeps := hprepared.keeps
  have hfollow : Disk.follow d₁.tree (d₁.origin (Path.join root p)) (stem ++ xs) =
      .ok (base ++ xs) := by
    rw [hkeeps.origin, Disk.follow_append_of_ok (hkeeps.follow hstem)]
    exact Disk.follow_names_of_ne_none hnames (by rw [hdir]; exact nofun)
  obtain ⟨es, os, hes⟩ := Tree.kindAt?_eq_dir_iff.1 hdir
  have hholder := Disk.holder_of_takes (hkeeps.wellPlaced hplaced) (hkeeps.takes htakes) hlast
    hname.not_idle hfollow hes
  have hkeeps₂ := keeps_drafted hes content
  have htarget := Disk.target_of_free htakes.whole hlast hname
    (by rw [hkeeps₂.origin]; exact hkeeps₂.follow hfollow) (hkeeps₂.dir _ hdir)
    (by
      rw [kindAt?_drafted hes]
      split
      · exact nofun
      · rw [List.append_assoc, ← hsegs, hprepared.same_goal]
        exact hclear.free)
  rw [runOn_writeAtomically hmade, hholder]
  simp only [htarget]
  exact ⟨_, rfl⟩

end DiskM

end WorkspaceTemplates

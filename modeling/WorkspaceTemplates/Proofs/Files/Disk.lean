/-
  WorkspaceTemplates/Proofs/Files/Disk.lean
  =========================================
  **Where paths lead.**

  Following segments only asks where directories stand, so a change that keeps
  every directory keeps every path that leads somewhere (`Keeps.follow`).  The slot
  of a path is one name below the place to which the segments before its last one
  lead, so what is put into the slot is found under the path.
-/
import WorkspaceTemplates.Files.Disk
import WorkspaceTemplates.Proofs.Files.Path
import WorkspaceTemplates.Proofs.Files.Tree

namespace WorkspaceTemplates.Disk

open WorkspaceTemplates.Path (IsName)

/-! ### Following segments -/

section Follow

variable {t : Tree} {place goal : Location}

theorem follow_cons_of_dir (h : t.kindAt? place = some .dir) (s : String) (rest : List String) :
    follow t place (s :: rest) =
      if Path.isIdle s then follow t place rest
      else if s == ".." then follow t place.dropLast rest
      else if Path.isOverlong s then .error .invalidFilename
      else follow t (place ++ [s]) rest := by
  obtain ⟨es, os, hes⟩ := Tree.kindAt?_eq_dir_iff.1 h
  rw [follow_cons, hes]

theorem kindAt?_of_follow_cons {s : String} {rest : List String}
    (h : follow t place (s :: rest) = .ok goal) : t.kindAt? place = some .dir := by
  rw [follow_cons] at h
  cases hf : t.find? place with
  | none =>
    rw [hf] at h
    cases h
  | some u =>
    cases u with
    | file content =>
      rw [hf] at h
      cases h
    | dir es os => exact Tree.kindAt?_eq_dir_iff.2 ⟨es, os, hf⟩

theorem follow_name (h : t.kindAt? place = some .dir) {s : String} (hs : IsName s)
    (rest : List String) : follow t place (s :: rest) = follow t (place ++ [s]) rest := by
  rw [follow_cons_of_dir h, if_neg (by simp [hs.not_idle]), if_neg (by simp [hs.not_above]),
    if_neg (by simp [hs.not_overlong])]

/-- Segments lead on from where the segments before them lead. -/
theorem follow_append (xs ys : List String) :
    follow t place (xs ++ ys) = (follow t place xs).bind fun mid => follow t mid ys := by
  induction xs generalizing place with
  | nil => rw [follow_nil, List.nil_append, Except.bind]
  | cons s xs ih =>
    rw [List.cons_append, follow_cons, follow_cons]
    split
    · split
      · exact ih
      · split
        · exact ih
        · split
          · rfl
          · exact ih
    · rfl
    · rfl

theorem follow_append_of_ok {xs : List String} (h : follow t place xs = .ok goal)
    (ys : List String) : follow t place (xs ++ ys) = follow t goal ys := by
  rw [follow_append, h, Except.bind]

theorem follow_append_eq_ok_iff (xs ys : List String) :
    follow t place (xs ++ ys) = .ok goal ↔
      ∃ mid, follow t place xs = .ok mid ∧ follow t mid ys = .ok goal := by
  rw [follow_append]
  cases follow t place xs with
  | error e => simp [Except.bind]
  | ok mid => simp [Except.bind]

theorem eq_of_follow_names {names : List String} (hn : ∀ s ∈ names, IsName s)
    (h : follow t place names = .ok goal) : goal = place ++ names := by
  induction names generalizing place with
  | nil =>
    rw [follow_nil] at h
    cases h
    exact (List.append_nil _).symm
  | cons s names ih =>
    have hdir := kindAt?_of_follow_cons h
    rw [follow_name hdir (hn s List.mem_cons_self)] at h
    rw [ih (fun u hu => hn u (List.mem_cons_of_mem s hu)) h, List.append_assoc,
      List.singleton_append]

/-- Names lead to whatever stands below a location. -/
theorem follow_names_of_ne_none {names : List String} (hn : ∀ s ∈ names, IsName s)
    (h : t.kindAt? (place ++ names) ≠ none) : follow t place names = .ok (place ++ names) := by
  induction names generalizing place with
  | nil => rw [follow_nil, List.append_nil]
  | cons s names ih =>
    have hdir := Tree.kindAt?_of_append (List.cons_ne_nil s names) h
    rw [List.append_cons] at h
    rw [follow_name hdir (hn s List.mem_cons_self),
      ih (fun u hu => hn u (List.mem_cons_of_mem s hu)) h, ← List.append_cons]

/-- Segments lead no further than there are of them, and that far only if they are names. -/
theorem length_of_follow {segs : List String} (h : follow t place segs = .ok goal) :
    goal.length ≤ place.length + segs.length ∧
      (goal.length = place.length + segs.length → ∀ s ∈ segs, IsName s) := by
  induction segs generalizing place with
  | nil =>
    rw [follow_nil] at h
    cases h
    exact ⟨Nat.le_refl _, nofun⟩
  | cons u segs ih =>
    rw [follow_cons_of_dir (kindAt?_of_follow_cons h)] at h
    rw [List.length_cons]
    split at h
    · have hlength := (ih h).1
      exact ⟨by omega, fun heq => by omega⟩
    · rename_i hidle
      split at h
      · have hlength := (ih h).1
        rw [List.length_dropLast] at hlength
        exact ⟨by omega, fun heq => by omega⟩
      · rename_i habove
        split at h
        · cases h
        · rename_i hover
          obtain ⟨hlength, hnames⟩ := ih h
          rw [List.length_append, List.length_singleton] at hlength hnames
          refine ⟨by omega, fun heq => List.forall_mem_cons.2 ⟨?_, hnames (by omega)⟩⟩
          exact ⟨by simpa using hidle, by simpa using habove, by simpa using hover⟩

end Follow

/-! ### Keeping directories -/

/-- One disk has a directory wherever another has one, and the same working directory. -/
structure Keeps (d d' : Disk) : Prop where
  workDir : d'.workDir = d.workDir
  dir : ∀ loc, d.tree.kindAt? loc = some .dir → d'.tree.kindAt? loc = some .dir

section Keeps

variable {d d' d'' : Disk} {path : String} {place goal : Location}

theorem Keeps.refl (d : Disk) : Keeps d d := ⟨rfl, fun _ h => h⟩

theorem Keeps.trans (h : Keeps d d') (h' : Keeps d' d'') : Keeps d d'' :=
  ⟨h'.workDir.trans h.workDir, fun loc hloc => h'.dir loc (h.dir loc hloc)⟩

theorem Keeps.origin (h : Keeps d d') (path : String) : d'.origin path = d.origin path := by
  rw [Disk.origin, Disk.origin, h.workDir]

/-- What leads somewhere still leads there when directories are kept. -/
theorem Keeps.follow (h : Keeps d d') {segs : List String}
    (hf : follow d.tree place segs = .ok goal) : Disk.follow d'.tree place segs = .ok goal := by
  induction segs generalizing place with
  | nil =>
    rw [follow_nil] at hf
    rw [follow_nil]
    exact hf
  | cons s segs ih =>
    have hdir := kindAt?_of_follow_cons hf
    rw [follow_cons_of_dir hdir] at hf
    rw [follow_cons_of_dir (h.dir place hdir)]
    split at hf
    · rename_i hidle
      rw [if_pos hidle]
      exact ih hf
    · rename_i hidle
      rw [if_neg hidle]
      split at hf
      · rename_i habove
        rw [if_pos habove]
        exact ih hf
      · rename_i habove
        rw [if_neg habove]
        split at hf
        · cases hf
        · rename_i hover
          rw [if_neg hover]
          exact ih hf

theorem locate_eq_ok_iff :
    d.locate path = .ok goal ↔
      refusal? path = none ∧
        follow d.tree (d.origin path) (Path.segments path) = .ok goal := by
  rw [locate]
  cases refusal? path with
  | none => exact (and_iff_right rfl).symm
  | some e =>
    constructor
    · intro h
      cases h
    · rintro ⟨h, -⟩
      cases h

theorem Keeps.locate (h : Keeps d d') (hl : d.locate path = .ok goal) :
    d'.locate path = .ok goal := by
  obtain ⟨href, hf⟩ := locate_eq_ok_iff.1 hl
  refine locate_eq_ok_iff.2 ⟨href, ?_⟩
  rw [h.origin]
  exact h.follow hf

end Keeps

/-! ### Looking -/

section Look

variable {d : Disk} {path : String}

theorem look_eq_ok_iff {u : Tree} :
    d.look path = .ok u ↔ ∃ loc, d.locate path = .ok loc ∧ d.tree.find? loc = some u := by
  rw [look]
  cases d.locate path with
  | error e => simp
  | ok place =>
    cases hf : d.tree.find? place <;> simp [hf]

theorem exists?_eq_true_iff :
    d.exists? path = true ↔ ∃ loc, d.locate path = .ok loc ∧ d.tree.kindAt? loc ≠ none := by
  have hlook : d.exists? path = true ↔ ∃ u, d.look path = .ok u := by
    rw [exists?]
    cases d.look path <;> simp
  rw [hlook]
  constructor
  · rintro ⟨u, hu⟩
    obtain ⟨loc, hloc, hfind⟩ := look_eq_ok_iff.1 hu
    exact ⟨loc, hloc, by rw [Ne, Tree.kindAt?_eq_none_iff, hfind]; exact nofun⟩
  · rintro ⟨loc, hloc, hkind⟩
    obtain ⟨u, hu⟩ := Option.ne_none_iff_exists'.1 (mt Tree.kindAt?_eq_none_iff.2 hkind)
    exact ⟨u, look_eq_ok_iff.2 ⟨loc, hloc, hu⟩⟩

theorem isDir_eq_true_iff :
    d.isDir path = true ↔ ∃ loc, d.locate path = .ok loc ∧ d.tree.kindAt? loc = some .dir := by
  have hlook : d.isDir path = true ↔ ∃ es os, d.look path = .ok (.dir es os) := by
    rw [isDir]
    rcases d.look path with e | u
    · simp
    · cases u <;> simp [Tree.isDir]
  simp only [hlook, look_eq_ok_iff, Tree.kindAt?_eq_dir_iff]
  constructor
  · rintro ⟨es, os, loc, hloc, hfind⟩
    exact ⟨loc, hloc, es, os, hfind⟩
  · rintro ⟨loc, hloc, es, os, hfind⟩
    exact ⟨es, os, loc, hloc, hfind⟩

/-- A file that holds the bytes of a text reads as that text. -/
theorem readText_of_kindAt? {loc : Location} {s : String} (hloc : d.locate path = .ok loc)
    (hkind : d.tree.kindAt? loc = some (.file s.toUTF8)) : d.readText path = .ok s := by
  have hdecode : String.fromUTF8? s.toUTF8 = some s := dif_pos s.isValidUTF8
  rw [readText, look_eq_ok_iff.2 ⟨loc, hloc, Tree.kindAt?_eq_file_iff.1 hkind⟩]
  simp only [textOf, hdecode]

theorem exists?_of_readText {s : String} (h : d.readText path = .ok s) :
    d.exists? path = true := by
  rw [readText] at h
  rw [exists?]
  cases hlook : d.look path with
  | error e =>
    rw [hlook] at h
    cases h
  | ok u => rfl

/-! ### Listings -/

theorem entries_of_not_isDir (h : ¬ d.isDir path = true) : d.entries path = [] := by
  rw [isDir] at h
  rw [entries]
  cases hlook : d.look path with
  | error e => rfl
  | ok u =>
    cases u with
    | file content => rfl
    | dir es os =>
      rw [hlook] at h
      exact absurd rfl h

/-- The files of a directory have different names. -/
theorem nodup_filesWithExtension (d : Disk) (dir extension : String) :
    (d.filesWithExtension dir extension).Nodup := by
  have hnames : ((d.entries dir).map (·.1)).Nodup := by
    rw [entries]
    split
    · exact Tree.nodup_listing _
    · exact List.nodup_nil
  exact hnames.sublist (List.filter_sublist.map _)

end Look

/-! ### Slots -/

section Slot

variable {d : Disk} {path name : String} {place : Location}

/-- A slot is one name below the place to which the segments before the name lead. -/
theorem slot_spec (h : d.slot path = .ok (place, some name))
    (hend : (Path.segments path).getLast? ≠ some "") :
    refusal? path = none ∧ IsName name ∧ d.tree.kindAt? place = some .dir ∧
      ∃ above, Path.segments path = above ++ [name] ∧
        follow d.tree (d.origin path) above = .ok place := by
  rw [slot] at h
  cases href : refusal? path with
  | some e =>
    rw [href] at h
    cases h
  | none =>
    rw [href] at h
    simp only at h
    cases hback : (Path.segments path).reverse with
    | nil => exact absurd (List.reverse_eq_nil_iff.1 hback) (Path.segments_ne_nil path)
    | cons last above =>
      have hsegs : Path.segments path = above.reverse ++ [last] := by
        rw [← List.reverse_reverse (Path.segments path), hback, List.reverse_cons]
      have hlast : last ≠ "" := by
        rintro rfl
        exact hend (by rw [hsegs, List.getLast?_concat])
      rw [hback, List.dropWhile_cons_of_neg (by simpa using hlast)] at h
      simp only at h
      split at h
      · cases h
      · rename_i place' hfollow
        split at h
        · cases h
        · rename_i hdots
          split at h
          · cases h
          · rename_i hover
            cases h
            obtain ⟨mid, habove, hdot⟩ := (follow_append_eq_ok_iff _ _).1 hfollow
            have hdir := kindAt?_of_follow_cons hdot
            rw [follow_cons_of_dir hdir, if_pos (by decide), follow_nil] at hdot
            cases hdot
            refine ⟨rfl, ⟨?_, ?_, by simpa using hover⟩, hdir, above.reverse, hsegs, habove⟩
            · simp only [Bool.or_eq_true, beq_iff_eq, not_or] at hdots
              simp [Path.isIdle, hlast, hdots.1]
            · simp only [Bool.or_eq_true, beq_iff_eq, not_or] at hdots
              exact hdots.2

theorem locate_of_slot (h : d.slot path = .ok (place, some name))
    (hend : (Path.segments path).getLast? ≠ some "") :
    d.locate path = .ok (place ++ [name]) := by
  obtain ⟨href, hname, hdir, above, hsegs, habove⟩ := slot_spec h hend
  refine locate_eq_ok_iff.2 ⟨href, ?_⟩
  rw [hsegs, follow_append_eq_ok_iff]
  exact ⟨place, habove, by rw [follow_name hdir hname, follow_nil]⟩

end Slot

end WorkspaceTemplates.Disk

/-
  WorkspaceTemplates/Proofs/Files/Location.lean
  =============================================
  **The paths of locations.**

  The path of a location leads back to it when its names can stand in a path
  (`rooted_pathOf`).  A directory that is reached by its own path has such names, for
  no other segments lead as far (`nameable_of_rooted`), and so every directory above
  it is reached by its own path, too.  The path of a location is as long as its names,
  each with a slash before it (`utf8ByteSize_pathOf`).
-/
import WorkspaceTemplates.Proofs.Files.Success

namespace WorkspaceTemplates.Disk

open WorkspaceTemplates.Path (IsName segments)

variable {d : Disk} {t : Tree} {place goal : Location} {segs : List String}

theorem mem_of_follow (h : follow t place segs = .ok goal) {s : String} (hs : s ∈ goal) :
    s ∈ place ∨ s ∈ segs := by
  induction segs generalizing place with
  | nil =>
    rw [follow_nil] at h
    cases h
    exact .inl hs
  | cons u segs ih =>
    rw [follow_cons_of_dir (kindAt?_of_follow_cons h)] at h
    split at h
    · exact (ih h).imp_right (List.mem_cons_of_mem u)
    · split at h
      · exact (ih h).imp List.mem_of_mem_dropLast (List.mem_cons_of_mem u)
      · split at h
        · cases h
        · rcases ih h with hplace | hrest
          · rcases List.mem_append.1 hplace with hplace | hu
            · exact .inl hplace
            · exact .inr (List.mem_singleton.1 hu ▸ List.mem_cons_self)
          · exact .inr (List.mem_cons_of_mem u hrest)

theorem isAbsolute_pathOf (place : Location) : Path.isAbsolute (pathOf place) = true := by
  rw [pathOf, Path.isAbsolute, String.toList_append]
  rfl

theorem origin_pathOf (d : Disk) (place : Location) : d.origin (pathOf place) = [] := by
  rw [origin, if_pos (isAbsolute_pathOf place)]

theorem segments_pathOf (hne : place ≠ []) (hslash : ∀ s ∈ place, '/' ∉ s.toList) :
    segments (pathOf place) = "" :: place := by
  rw [pathOf, Path.segments_slash_append]
  exact congrArg (List.cons "") (Path.segments_ofSegments hne hslash)

/-- A name of a location, as a segment of its path. -/
def Nameable (s : String) : Prop := IsName s ∧ '/' ∉ s.toList

instance (s : String) : Decidable (Nameable s) :=
  inferInstanceAs (Decidable (IsName s ∧ '/' ∉ s.toList))

/-- A directory that is reached by its own path has names that can stand in a path. -/
theorem nameable_of_rooted (h : d.Rooted (pathOf place) place) : ∀ s ∈ place, Nameable s := by
  have hfollow := h.follow
  rw [origin_pathOf] at hfollow
  have hslash : ∀ s ∈ place, '/' ∉ s.toList := by
    intro s hs
    rcases mem_of_follow hfollow hs with hnil | hmem
    · cases hnil
    · exact Path.slash_not_mem_of_mem_segments hmem
  by_cases hne : place = []
  · subst hne
    exact nofun
  · rw [segments_pathOf hne hslash] at hfollow
    rw [follow_cons_of_dir (kindAt?_of_follow_cons hfollow), if_pos (by decide)] at hfollow
    have hnames := (length_of_follow hfollow).2 (by simp)
    exact fun s hs => ⟨hnames s hs, hslash s hs⟩

theorem rooted_pathOf (hnames : ∀ s ∈ place, Nameable s)
    (hdir : d.tree.kindAt? place = some .dir) : d.Rooted (pathOf place) place where
  follow := by
    rw [origin_pathOf]
    by_cases hne : place = []
    · subst hne
      have hsegs : segments (pathOf []) = ["", ""] := by decide +kernel
      rw [hsegs]
      exact follow_idle hdir (by decide)
    · have htop : d.tree.kindAt? [] = some .dir :=
        Tree.kindAt?_of_append hne (by rw [List.nil_append, hdir]; exact nofun)
      rw [segments_pathOf hne fun s hs => (hnames s hs).2, follow_cons_of_dir htop,
        if_pos (by decide)]
      exact follow_names_of_ne_none (fun s hs => (hnames s hs).1)
        (by rw [List.nil_append, hdir]; exact nofun)
  dir := hdir

/-! ### The text of the path of a location -/

section PathOf

variable {s : String} {names : List String}

theorem pathOf_eq (hne : place ≠ []) : pathOf place = Path.ofSegments ("" :: place) := by
  rw [pathOf, Path.ofSegments, Path.ofSegments, String.intercalate_cons_of_ne_nil hne,
    String.empty_append]

theorem utf8ByteSize_pathOf (hne : place ≠ []) :
    (pathOf place).utf8ByteSize = Path.bytes place := by
  have hsize := Path.utf8ByteSize_ofSegments (List.cons_ne_nil "" place)
  have hempty : "".utf8ByteSize = 0 := rfl
  rw [← pathOf_eq hne, Path.bytes, hempty] at hsize
  omega

/-- The path of a location is taken when it is short enough and no name has a NUL character. -/
theorem refusal?_pathOf (hne : place ≠ []) (hnul : ∀ s ∈ place, '\x00' ∉ s.toList)
    (hsize : Path.bytes place ≤ Path.limit) :
    refusal? (pathOf place) = none := by
  refine refusal?_eq_none_iff.2 ⟨?_, by rw [utf8ByteSize_pathOf hne]; exact hsize, ?_⟩
  · intro hmem
    rw [pathOf_eq hne] at hmem
    obtain hslash | ⟨s, hs, hc⟩ := Path.mem_ofSegments hmem
    · exact absurd hslash (by decide)
    · rcases List.mem_cons.1 hs with rfl | hs
      · cases hc
      · exact hnul s hs hc
  · rw [pathOf, Ne, String.append_eq_empty_iff]
    exact fun h => absurd h.1 (by decide)

theorem absolute_pathOf (d : Disk) (place : Location) :
    d.absolute (pathOf place) = pathOf place := by
  rw [absolute, Path.join, if_pos (isAbsolute_pathOf place)]

/-- The directory of a location stands at the location without its last name. -/
theorem parent_pathOf (hne : place ≠ []) (hnames : ∀ u ∈ place, Nameable u) (hs : Nameable s) :
    Path.parent (pathOf (place ++ [s])) = pathOf place := by
  obtain ⟨above, u, rfl⟩ := (List.eq_nil_or_concat' place).resolve_left hne
  have hslash : ∀ v ∈ above ++ [u] ++ [s], '/' ∉ v.toList := by
    intro v hv
    rcases List.mem_append.1 hv with hv | hv
    · exact (hnames v hv).2
    · rw [List.mem_singleton.1 hv]
      exact hs.2
  have hsegs : segments (pathOf (above ++ [u] ++ [s])) = ("" :: above) ++ [u] ++ [s] :=
    segments_pathOf (by simp) hslash
  rw [Path.parent_eq hsegs (hnames u (by simp)).1.not_idle hs.1.not_idle, pathOf_eq (by simp)]
  rfl

/-- Names below a location stand below its path. -/
theorem join_pathOf (hne : place ≠ []) (hplace : ∀ u ∈ place, Nameable u) (hnames : names ≠ [])
    (hrelative : Path.isAbsolute (Path.ofSegments names) = false) :
    Path.join (pathOf place) (Path.ofSegments names) = pathOf (place ++ names) := by
  obtain ⟨above, u, rfl⟩ := (List.eq_nil_or_concat' place).resolve_left hne
  have hsegs : segments (pathOf (above ++ [u])) = ("" :: above) ++ [u] :=
    segments_pathOf (by simp) fun v hv => (hplace v hv).2
  have hlast := Path.getLast?_ne_slash hsegs (hplace u (by simp)).1.ne_empty
  have hfull : (pathOf (above ++ [u])).isEmpty = false := by
    simp [pathOf]
  rw [Path.join, if_neg (by simp [hrelative]), if_neg (by simp [hfull, hlast]), pathOf, pathOf,
    Path.ofSegments, Path.ofSegments, Path.ofSegments,
    String.intercalate_append_of_ne_nil hne hnames]
  simp only [String.append_assoc]

end PathOf

/-- Every directory above one that is reached by its own path is reached by its own path, too. -/
theorem Rooted.of_prefix {above : Location} (h : d.Rooted (pathOf place) place)
    (hle : above <+: place) : d.Rooted (pathOf above) above := by
  refine rooted_pathOf (fun s hs => nameable_of_rooted h s (hle.subset hs)) ?_
  obtain ⟨rest, rfl⟩ := hle
  by_cases hrest : rest = []
  · have hdir := h.dir
    rwa [hrest, List.append_nil] at hdir
  · exact Tree.kindAt?_of_append hrest (by rw [h.dir]; exact nofun)

end WorkspaceTemplates.Disk

/-
  WorkspaceTemplates/Proofs/Files/Rooted.lean
  ===========================================
  **Writing below a root.**

  When a root leads to a directory, an ordinary path below it leads to the names of
  the path below that directory, whatever the text of the root looks like.  What is
  missing above such a location is missing below the root (`Above.of_over`).
-/
import WorkspaceTemplates.Proofs.Files.Attempt

namespace WorkspaceTemplates

open WorkspaceTemplates.Path (IsName Named Ordinary)

namespace Disk

/-! ### Roots -/

/-- A root leads to a directory. -/
structure Rooted (d : Disk) (root : String) (base : Location) : Prop where
  follow : follow d.tree (d.origin root) (Path.segments root) = .ok base
  dir : d.tree.kindAt? base = some .dir

section Rooted

variable {d d' : Disk} {root p : String} {base loc : Location}

theorem Rooted.keeps (h : d.Rooted root base) (hkeeps : Keeps d d') : d'.Rooted root base where
  follow := by
    rw [hkeeps.origin]
    exact hkeeps.follow h.follow
  dir := hkeeps.dir base h.dir

theorem Rooted.leads (h : d.Rooted root base) : d.Leads root base :=
  ⟨Path.segments root, [], base, (List.append_nil _).symm, h.follow, List.not_mem_nil,
    (List.append_nil base).symm⟩

/-- A name leads to the directory of that name in the working directory. -/
theorem Rooted.of_name {name : String} (hname : IsName name) (hsegs : Path.segments name = [name])
    (hdir : d.tree.kindAt? (d.workDir ++ [name]) = some .dir) :
    d.Rooted name (d.workDir ++ [name]) where
  follow := by
    have hrelative : Path.isAbsolute name = false :=
      Path.isAbsolute_of_mem_segments (p := name) (by simp [hsegs])
    have hwork : d.tree.kindAt? d.workDir = some .dir :=
      Tree.kindAt?_of_append (List.cons_ne_nil name []) (by rw [hdir]; exact nofun)
    rw [hsegs, origin, hrelative, if_neg Bool.false_ne_true, follow_name hwork hname, follow_nil]
  dir := hdir

/-- The segments of a path below a root follow some that lead to where the root leads. -/
theorem Rooted.stem (h : d.Rooted root base) (hp : Path.isAbsolute p = false) :
    ∃ stem, Path.segments (Path.join root p) = stem ++ Path.segments p ∧
      Disk.follow d.tree (d.origin root) stem = .ok base := by
  obtain ⟨stem, hjoin, hroot, -⟩ := Path.segments_join root hp
  refine ⟨stem, hjoin, ?_⟩
  rcases hroot with hroot | hroot
  · rw [← hroot]
    exact h.follow
  · have hfollow := h.follow
    rw [hroot, follow_append_eq_ok_iff] at hfollow
    obtain ⟨mid, hstem, hidle⟩ := hfollow
    rw [follow_cons_of_dir (kindAt?_of_follow_cons hidle), if_pos (by decide), follow_nil] at hidle
    cases hidle
    exact hstem

/-- Where a path below a root leads anywhere, the root leads to a directory. -/
theorem rooted_of_locate (hp : Ordinary p) (h : d.locate (Path.join root p) = .ok loc) :
    ∃ base, d.Rooted root base ∧ loc = base ++ Path.segments p := by
  obtain ⟨stem, hjoin, hroot, -⟩ := Path.segments_join root hp.isAbsolute
  obtain ⟨-, hfollow⟩ := locate_eq_ok_iff.1 h
  rw [origin_join d root hp.isAbsolute, hjoin, follow_append_eq_ok_iff] at hfollow
  obtain ⟨base, hstem, hnames⟩ := hfollow
  have hbase : d.tree.kindAt? base = some .dir := by
    obtain ⟨name, rest, hsegs⟩ := List.exists_cons_of_ne_nil (Path.segments_ne_nil p)
    rw [hsegs] at hnames
    exact kindAt?_of_follow_cons hnames
  refine ⟨base, ⟨?_, hbase⟩, eq_of_follow_names hp.isName hnames⟩
  rcases hroot with hroot | hroot
  · rw [hroot]
    exact hstem
  · rw [hroot, follow_append_of_ok hstem, follow_cons_of_dir hbase, if_pos (by decide), follow_nil]

theorem Rooted.locate_join_iff (h : d.Rooted root base) (hp : Path.isAbsolute p = false) :
    d.locate (Path.join root p) = .ok loc ↔
      refusal? (Path.join root p) = none ∧
        Disk.follow d.tree base (Path.segments p) = .ok loc := by
  obtain ⟨stem, hjoin, hstem⟩ := h.stem hp
  rw [locate_eq_ok_iff, origin_join d root hp, hjoin, follow_append_eq_ok_iff]
  constructor
  · rintro ⟨href, mid, hmid, hrest⟩
    rw [hstem] at hmid
    cases hmid
    exact ⟨href, hrest⟩
  · rintro ⟨href, hrest⟩
    exact ⟨href, base, hstem, hrest⟩

theorem Rooted.eq_of_locate_join (h : d.Rooted root base) (hp : Ordinary p)
    (hloc : d.locate (Path.join root p) = .ok loc) :
    refusal? (Path.join root p) = none ∧ loc = base ++ Path.segments p := by
  obtain ⟨href, hfollow⟩ := (h.locate_join_iff hp.isAbsolute).1 hloc
  exact ⟨href, eq_of_follow_names hp.isName hfollow⟩

theorem Rooted.locate_join (h : d.Rooted root base) (hp : Ordinary p)
    (href : refusal? (Path.join root p) = none)
    (hkind : d.tree.kindAt? (base ++ Path.segments p) ≠ none) :
    d.locate (Path.join root p) = .ok (base ++ Path.segments p) :=
  (h.locate_join_iff hp.isAbsolute).2 ⟨href, follow_names_of_ne_none hp.isName hkind⟩

/-- A path of names below a root exists when the system takes it and something stands there. -/
theorem Rooted.exists?_join_iff (h : d.Rooted root base) (hp : Named p) :
    d.exists? (Path.join root p) = true ↔
      (refusal? (Path.join root p) = none ∧ ∀ s ∈ Path.segments p, IsName s) ∧
        d.tree.kindAt? (base ++ Path.segments p) ≠ none := by
  rw [exists?_eq_true_iff]
  constructor
  · rintro ⟨loc, hloc, hkind⟩
    obtain rfl := (h.leads.join hp).eq_of_locate hloc
    obtain ⟨href, hfollow⟩ := (h.locate_join_iff hp.isAbsolute).1 hloc
    exact ⟨⟨href, (length_of_follow hfollow).2 List.length_append⟩, hkind⟩
  · rintro ⟨⟨href, hnames⟩, hkind⟩
    have hfollow := follow_names_of_ne_none hnames hkind
    exact ⟨_, (h.locate_join_iff hp.isAbsolute).2 ⟨href, hfollow⟩, hkind⟩

end Rooted

/-! ### Directories below a root -/

/-- A location is one of the directories between a base and a location with some names. -/
def Above (base : Location) (names : List String) (loc : Location) : Prop :=
  ∃ xs ys, names = xs ++ ys ∧ xs ≠ [] ∧ ys ≠ [] ∧ loc = base ++ xs

theorem Above.over {base loc : Location} {names : List String} (h : Above base names loc) :
    Over loc (base ++ names) := by
  obtain ⟨xs, ys, rfl, -, hys, rfl⟩ := h
  rw [← List.append_assoc]
  exact over_append _ hys

/-- A missing directory above a location below a base that is there is one of those between. -/
theorem Above.of_over {t : Tree} {base loc : Location} {names : List String}
    (hbase : t.kindAt? base = some .dir) (hvacant : t.kindAt? loc = none)
    (h : Over loc (base ++ names)) : Above base names loc := by
  obtain ⟨⟨ys, hys⟩, hne⟩ := h
  rcases List.append_eq_append_iff.1 hys with ⟨more, rfl, -⟩ | ⟨xs, rfl, hxs⟩
  · by_cases hmore : more = []
    · rw [hmore, List.append_nil, hvacant] at hbase
      cases hbase
    · rw [Tree.kindAt?_append_of_ne_dir hmore (by rw [hvacant]; exact nofun)] at hbase
      cases hbase
  · refine ⟨xs, ys, hxs, ?_, ?_, rfl⟩
    · rintro rfl
      rw [List.append_nil, hbase] at hvacant
      cases hvacant
    · rintro rfl
      exact hne (by rw [hxs, List.append_nil])

end Disk

end WorkspaceTemplates

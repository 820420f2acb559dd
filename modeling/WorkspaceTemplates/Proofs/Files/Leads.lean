/-
  WorkspaceTemplates/Proofs/Files/Leads.lean
  ==========================================
  **Where paths would lead.**

  A path may belong to a location although directories on its way are missing: its
  first segments lead somewhere, and those after them do not go back (`Leads`).
  Such a path leads to its location on every later disk on which it leads anywhere,
  and the directories that are made for it are those above that location.
-/
import WorkspaceTemplates.Proofs.Files.Write

namespace WorkspaceTemplates.Disk

open WorkspaceTemplates.Path (Named)

/-! ### Segments that do not go back -/

/-- The segments that mean something. -/
def named (segs : List String) : Location := segs.filter fun s => !Path.isIdle s

theorem named_append (xs ys : List String) : named (xs ++ ys) = named xs ++ named ys :=
  List.filter_append xs ys

theorem named_concat_ne_nil (xs : List String) {s : String} (hs : Path.isIdle s = false) :
    named (xs ++ [s]) ≠ [] := by
  simp [named, hs]

theorem named_eq_self {names : List String} (hn : ∀ s ∈ names, Path.isIdle s = false) :
    named names = names :=
  List.filter_eq_self.2 fun s hs => by rw [hn s hs, Bool.not_false]

section Plain

variable {t t' : Tree} {place goal : Location} {segs : List String}

theorem eq_of_follow_plain (hplain : ".." ∉ segs) (h : follow t place segs = .ok goal) :
    goal = place ++ named segs := by
  induction segs generalizing place with
  | nil =>
    rw [follow_nil] at h
    cases h
    exact (List.append_nil _).symm
  | cons s segs ih =>
    rw [List.mem_cons, not_or] at hplain
    rw [follow_cons_of_dir (kindAt?_of_follow_cons h)] at h
    by_cases hidle : Path.isIdle s = true
    · rw [if_pos hidle] at h
      rw [ih hplain.2 h, named, named, List.filter_cons_of_neg (by simp [hidle])]
    · rw [if_neg hidle, if_neg (by simpa using Ne.symm hplain.1)] at h
      split at h
      · cases h
      · rw [ih hplain.2 h, named, named, List.filter_cons_of_pos (by simpa using hidle),
          List.append_assoc, List.singleton_append]

/-- Segments that lead to a location in one tree lead there in every tree in which something stands
there. -/
theorem follow_of_there {s : String} (hplain : ".." ∉ segs ++ [s]) (hs : Path.isIdle s = false)
    (h : follow t place (segs ++ [s]) = .ok goal) (hthere : t'.kindAt? goal ≠ none) :
    follow t' place (segs ++ [s]) = .ok goal := by
  have hgoal := eq_of_follow_plain hplain h
  have hdir : t'.kindAt? place = some .dir := by
    rw [hgoal] at hthere
    exact Tree.kindAt?_of_append (named_concat_ne_nil segs hs) hthere
  induction segs generalizing place with
  | nil =>
    rw [List.nil_append] at h ⊢
    rw [follow_cons_of_dir (kindAt?_of_follow_cons h)] at h
    rw [follow_cons_of_dir hdir]
    simp only [follow_nil] at h ⊢
    exact h
  | cons u segs ih =>
    rw [List.cons_append] at h hplain ⊢
    rw [List.mem_cons, not_or] at hplain
    rw [follow_cons_of_dir (kindAt?_of_follow_cons h)] at h
    rw [follow_cons_of_dir hdir]
    by_cases hidle : Path.isIdle u = true
    · rw [if_pos hidle] at h ⊢
      exact ih hplain.2 h (eq_of_follow_plain hplain.2 h) hdir
    · rw [if_neg hidle, if_neg (by simpa using Ne.symm hplain.1)] at h ⊢
      split at h
      · cases h
      · rename_i hover
        rw [if_neg hover]
        have hgoal := eq_of_follow_plain hplain.2 h
        refine ih hplain.2 h hgoal ?_
        rw [hgoal] at hthere
        exact Tree.kindAt?_of_append (named_concat_ne_nil segs hs) hthere

end Plain

/-! ### Paths and their locations -/

/-- A location is one of the directories above another one. -/
def Over (loc goal : Location) : Prop := loc <+: goal ∧ loc ≠ goal

theorem over_append {rest : Location} (loc : Location) (hne : rest ≠ []) :
    Over loc (loc ++ rest) :=
  ⟨List.prefix_append loc rest, fun h => hne (List.self_eq_append_right.1 h)⟩

/-- A path belongs to a location, whatever stands on its way: after some segments that lead
somewhere, its segments do not go back. -/
def Leads (d : Disk) (path : String) (goal : Location) : Prop :=
  ∃ stem rest place, Path.segments path = stem ++ rest ∧
    follow d.tree (d.origin path) stem = .ok place ∧ ".." ∉ rest ∧ goal = place ++ named rest

section Leads

variable {d d₁ : Disk} {path root p : String} {base goal loc : Location}

theorem leads_of_plain (d : Disk) (hplain : ".." ∉ Path.segments path) :
    d.Leads path (d.origin path ++ named (Path.segments path)) :=
  ⟨[], Path.segments path, d.origin path, rfl, follow_nil _ _, hplain, rfl⟩

theorem Leads.keeps (h : d.Leads path goal) (hkeeps : Keeps d d₁) : d₁.Leads path goal := by
  obtain ⟨stem, rest, place, hsegs, hstem, hplain, hgoal⟩ := h
  refine ⟨stem, rest, place, hsegs, ?_, hplain, hgoal⟩
  rw [hkeeps.origin]
  exact hkeeps.follow hstem

theorem Leads.eq_of_locate (h : d.Leads path goal) (hloc : d.locate path = .ok loc) :
    loc = goal := by
  obtain ⟨stem, rest, place, hsegs, hstem, hplain, hgoal⟩ := h
  obtain ⟨-, hfollow⟩ := locate_eq_ok_iff.1 hloc
  rw [hsegs, follow_append_of_ok hstem] at hfollow
  rw [hgoal]
  exact eq_of_follow_plain hplain hfollow

/-- A path that leads to its location on a later disk leads there already if something stands
there. -/
theorem Leads.locate_of_there {xs : List String} {s : String} (h : d.Leads path goal)
    (hsegs : Path.segments path = xs ++ [s]) (hs : Path.isIdle s = false) (hkeeps : Keeps d d₁)
    (hloc : d₁.locate path = .ok goal) (hthere : d.tree.kindAt? goal ≠ none) :
    d.locate path = .ok goal := by
  obtain ⟨stem, rest, place, hsplit, hstem, hplain, hgoal⟩ := h
  obtain ⟨href, hfollow⟩ := locate_eq_ok_iff.1 hloc
  rw [hkeeps.origin, hsplit, follow_append_of_ok (hkeeps.follow hstem)] at hfollow
  refine locate_eq_ok_iff.2 ⟨href, ?_⟩
  rw [hsplit, follow_append_of_ok hstem]
  rcases List.eq_nil_or_concat' rest with rfl | ⟨ys, u, rfl⟩
  · rw [follow_nil] at hfollow ⊢
    exact hfollow
  · have hlast : u = s := by
      rw [hsegs, ← List.append_assoc] at hsplit
      exact (List.singleton_inj.1 (List.append_inj_right' hsplit rfl)).symm
    exact follow_of_there hplain (hlast ▸ hs) hfollow hthere

theorem origin_join (d : Disk) (root : String) (hp : Path.isAbsolute p = false) :
    d.origin (Path.join root p) = d.origin root := by
  rw [origin, origin, Path.isAbsolute_join root hp]

/-- A path below a root belongs to its names below where the root belongs. -/
theorem Leads.join (h : d.Leads root base) (hp : Named p) :
    d.Leads (Path.join root p) (base ++ Path.segments p) := by
  obtain ⟨stem, rest, place, hroot, hstem, hplain, rfl⟩ := h
  have horigin := origin_join d root hp.isAbsolute
  obtain ⟨front, hjoin, hfront, -⟩ := Path.segments_join root hp.isAbsolute
  -- the empty segment that the root may end in is one of the rest, or it leads nowhere else
  have hsplit : ∃ stem rest', front = stem ++ rest' ∧ ".." ∉ rest' ∧ named rest' = named rest ∧
      follow d.tree (d.origin root) stem = .ok place := by
    rcases hfront with hfront | hfront
    · exact ⟨stem, rest, by rw [← hfront, hroot], hplain, rfl, hstem⟩
    · rw [hroot] at hfront
      rcases List.eq_nil_or_concat' rest with rfl | ⟨rest', u, rfl⟩
      · rw [List.append_nil] at hfront
        rw [hfront, follow_append_eq_ok_iff] at hstem
        obtain ⟨mid, hmid, hidle⟩ := hstem
        rw [follow_cons_of_dir (kindAt?_of_follow_cons hidle), if_pos (by decide),
          follow_nil] at hidle
        cases hidle
        exact ⟨front, [], (List.append_nil front).symm, List.not_mem_nil, rfl, hmid⟩
      · rw [← List.append_assoc] at hfront
        obtain ⟨hsame, hu⟩ := List.append_inj' hfront rfl
        rw [List.singleton_inj] at hu
        subst hu
        refine ⟨stem, rest', hsame.symm, fun hmem => hplain (by simp [hmem]), ?_, hstem⟩
        rw [named_append]
        exact (List.append_nil _).symm
  obtain ⟨stem, rest', rfl, hplain', hsame, hstem⟩ := hsplit
  refine ⟨stem, rest' ++ Path.segments p, place, by rw [hjoin, List.append_assoc],
    by rw [horigin]; exact hstem, by simp [hplain', hp.not_above], ?_⟩
  rw [named_append, hsame, named_eq_self hp.not_idle, List.append_assoc]

/-- Where an ancestor of a path leads: to a directory that was there before, or to a directory above
the location of the path. -/
theorem Leads.over_of_locate {a s : String} {xs : List String} (h : d.Leads path goal)
    (hsegs : Path.segments path = xs ++ [s]) (hs : Path.isIdle s = false) (hkeeps : Keeps d d₁)
    (ha : a ∈ (Path.ancestors path).tail) (hloc : d₁.locate a = .ok loc) :
    d.tree.kindAt? loc = some .dir ∨ Over loc goal := by
  obtain ⟨stem, rest, place, hsplit, hstem, hplain, rfl⟩ := h
  rw [Path.tail_ancestors hsegs hs, List.mem_reverse] at ha
  obtain ⟨pre, u, post, rfl, -, hasegs, haabs⟩ := Path.segments_of_mem_namedEnds hsegs ha
  obtain ⟨-, hfollow⟩ := locate_eq_ok_iff.1 hloc
  have horigin : d₁.origin a = d.origin path := by
    rw [hkeeps.origin, origin, haabs, origin]
  -- an ancestor that goes on from the place of the stem ends above the goal
  have hbelow (more : List String) (hmore : Path.segments a = stem ++ more)
      (hrest : rest = more ++ (post ++ [s])) : Over loc (place ++ named rest) := by
    rw [horigin, hmore, follow_append_of_ok (hkeeps.follow hstem)] at hfollow
    have hplain' : ".." ∉ more := fun hmem => hplain (by simp [hrest, hmem])
    rw [eq_of_follow_plain hplain' hfollow, hrest, named_append, ← List.append_assoc]
    exact over_append _ (named_concat_ne_nil post hs)
  rw [hsegs, List.append_assoc, List.cons_append, List.append_cons] at hsplit
  rcases List.append_eq_append_iff.1 hsplit with ⟨more, hstem', hpost⟩ | ⟨more, hpre, hrest⟩
  · cases more with
    | nil => exact .inr (hbelow [] (by simp [hasegs, hstem']) (by simpa using hpost.symm))
    | cons v more =>
      -- the ancestor is one of the stem, and more of the stem follows
      rw [hstem', follow_append_eq_ok_iff] at hstem
      obtain ⟨mid, hmid, hmore⟩ := hstem
      rw [horigin, hasegs, hkeeps.follow hmid] at hfollow
      cases hfollow
      exact .inl (kindAt?_of_follow_cons hmore)
  · exact .inr (hbelow more (by rw [hasegs, hpre]) hrest)

end Leads

end WorkspaceTemplates.Disk

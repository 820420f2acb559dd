/-
  WorkspaceTemplates/Proofs/Files/Tree.lean
  =========================================
  **What stands where in a tree, and what a change does to it.**

  A change of one directory rebuilds the whole tree above it, so trees are compared
  by what stands at their locations: a file with its bytes, a directory, or nothing
  (`kindAt?`).  The laws of `put` and `erase` say what stands at every location
  afterwards.  They need the directory that is changed to be there, and nothing
  else: names may come twice in a list of entries, since only the first counts.
-/
import WorkspaceTemplates.Files.Tree
import Mathlib.Data.List.Infix
import Mathlib.Data.List.Nodup

namespace WorkspaceTemplates.Tree

/-! ### What stands at a location -/

/-- A file with its bytes or a directory, whatever is in it. -/
inductive Kind where
  | file (content : ByteArray)
  | dir

/-- What a tree is at its top. -/
def kind : Tree → Kind
  | .file content => .file content
  | .dir _ _ => .dir

/-- What stands at a location. -/
def kindAt? (t : Tree) (place : Location) : Option Kind := (t.find? place).map kind

theorem find?_append (t : Tree) (place rest : Location) :
    t.find? (place ++ rest) = (t.find? place).bind fun u => u.find? rest := by
  induction place generalizing t with
  | nil => rfl
  | cons name place ih =>
    rw [List.cons_append, find?, find?]
    cases entry? t name with
    | none => rfl
    | some u => exact ih u

theorem find?_dir_cons (es : List (String × Tree)) (os : List (RawName × Tree)) (name : String)
    (rest : Location) :
    (Tree.dir es os).find? (name :: rest) = (es.lookup name).bind fun u => u.find? rest := by
  rw [find?, entry?]
  cases es.lookup name <;> rfl

theorem kindAt?_append (t : Tree) (place rest : Location) :
    t.kindAt? (place ++ rest) = (t.find? place).bind fun u => u.kindAt? rest := by
  rw [kindAt?, find?_append]
  cases t.find? place <;> rfl

theorem kindAt?_eq_dir_iff {t : Tree} {place : Location} :
    t.kindAt? place = some .dir ↔ ∃ es os, t.find? place = some (.dir es os) := by
  rw [kindAt?, Option.map_eq_some_iff]
  constructor
  · rintro ⟨u, hu, hk⟩
    cases u with
    | file content => cases hk
    | dir es os => exact ⟨es, os, hu⟩
  · rintro ⟨es, os, h⟩
    exact ⟨.dir es os, h, rfl⟩

theorem kindAt?_eq_file_iff {t : Tree} {place : Location} {content : ByteArray} :
    t.kindAt? place = some (.file content) ↔ t.find? place = some (.file content) := by
  rw [kindAt?, Option.map_eq_some_iff]
  constructor
  · rintro ⟨u, hu, hk⟩
    cases u with
    | file c => exact hu.trans (congrArg (fun k => some (Tree.file k)) (Kind.file.inj hk))
    | dir es os => cases hk
  · intro h
    exact ⟨.file content, h, rfl⟩

theorem kindAt?_eq_none_iff {t : Tree} {place : Location} :
    t.kindAt? place = none ↔ t.find? place = none :=
  Option.map_eq_none_iff

/-- Whatever stands below a location, a directory stands at it. -/
theorem kindAt?_of_append {t : Tree} {place rest : Location} (hne : rest ≠ [])
    (h : t.kindAt? (place ++ rest) ≠ none) : t.kindAt? place = some .dir := by
  rw [kindAt?_append] at h
  cases hf : t.find? place with
  | none =>
    rw [hf] at h
    exact absurd rfl h
  | some u =>
    cases u with
    | dir es os => exact kindAt?_eq_dir_iff.2 ⟨es, os, hf⟩
    | file content =>
      obtain ⟨name, rest, rfl⟩ := List.exists_cons_of_ne_nil hne
      rw [hf] at h
      exact absurd rfl h

theorem kindAt?_append_of_ne_dir {t : Tree} {place rest : Location} (hne : rest ≠ [])
    (h : t.kindAt? place ≠ some .dir) : t.kindAt? (place ++ rest) = none := by
  by_contra hsome
  exact h (kindAt?_of_append hne hsome)

/-- The entries of a directory, each name once, are what it has under these names. -/
theorem get?_children (t : Tree) (name : String) : t.children.get? name = entry? t name := by
  cases t with
  | file content => rfl
  | dir es os =>
    rw [children, entry?]
    induction es with
    | nil => rfl
    | cons e es ih =>
      obtain ⟨k, v⟩ := e
      rw [List.foldr_cons, Dictionary.get?_insert, Dictionary.lookup_cons, ih]

theorem find?_concat_of_mem_children {t u : Tree} {place : Location} {e : String × Tree}
    (h : t.find? place = some u) (he : e ∈ u.children.entries) :
    t.find? (place ++ [e.1]) ≠ none := by
  rw [find?_concat, h, Option.bind_some, ← get?_children]
  intro hnone
  have hne := List.lookup_eq_none_iff.1 hnone e he
  simp at hne

/-! ### What a listing shows -/

section Listing

variable {t : Tree}

theorem mem_listing_iff {e : FileName × Tree} :
    e ∈ t.listing ↔ (∃ c ∈ t.children.entries, (.text c.1, c.2) = e) ∨
      ∃ o ∈ t.rawChildren, (.raw o.1, o.2) = e := by
  rw [listing, (FileName.sortEntries_perm _).mem_iff, List.mem_append, List.mem_map, List.mem_map]

theorem rawChildren_sublist (t : Tree) : t.rawChildren.Sublist t.others := by
  rw [rawChildren]
  induction t.others with
  | nil => exact List.Sublist.refl _
  | cons o os ih => exact (List.filter_sublist.trans ih).cons_cons o

theorem nodup_rawChildren (t : Tree) : (t.rawChildren.map (·.1)).Nodup := by
  rw [rawChildren]
  induction t.others with
  | nil => exact List.nodup_nil
  | cons o os ih =>
    rw [List.foldr_cons, List.map_cons, List.nodup_cons]
    refine ⟨?_, ih.sublist (List.filter_sublist.map _)⟩
    rw [List.mem_map]
    rintro ⟨o', ho', heq⟩
    have hother := (List.mem_filter.1 ho').2
    rw [heq, bne_self_eq_false] at hother
    cases hother

/-- A listing shows every name once. -/
theorem nodup_listing (t : Tree) : (t.listing.map (·.1)).Nodup := by
  have htexts : ((t.children.entries.map (·.1)).map FileName.text).Nodup :=
    t.children.nodup_keys.map fun _ _ => FileName.text.inj
  have hraws : ((t.rawChildren.map (·.1)).map FileName.raw).Nodup :=
    (nodup_rawChildren t).map fun _ _ => FileName.raw.inj
  rw [listing, ((FileName.sortEntries_perm _).map _).nodup_iff, List.map_append, List.map_map,
    List.map_map, List.nodup_append']
  rw [List.map_map] at htexts hraws
  refine ⟨htexts, hraws, ?_⟩
  rw [List.disjoint_left]
  intro name htext hraw
  obtain ⟨c, -, rfl⟩ := List.mem_map.1 htext
  obtain ⟨o, -, heq⟩ := List.mem_map.1 hraw
  cases heq

end Listing

/-! ### Changing a directory -/

section Modify

variable {t : Tree} {place : Location} {es : List (String × Tree)} {os : List (RawName × Tree)}
variable (change : List (String × Tree) → List (String × Tree))

/-- What is found below a changed directory is found in its new entries. -/
theorem find?_modify_append (h : t.find? place = some (.dir es os)) (rest : Location) :
    (t.modify change place).find? (place ++ rest) = (Tree.dir (change es) os).find? rest := by
  induction place generalizing t with
  | nil =>
    cases h
    rfl
  | cons name place ih =>
    cases t with
    | file content => cases h
    | dir entries others =>
      rw [find?_dir_cons, Option.bind_eq_some_iff] at h
      obtain ⟨u, hu, h⟩ := h
      have hm : (Tree.dir entries others).modify change (name :: place) =
          .dir (Entries.insert name (u.modify change place) entries) others := by
        rw [modify]
        simp only [hu]
      rw [hm, List.cons_append, find?_dir_cons, Dictionary.lookup_insert, if_pos rfl]
      exact ih h

/-- Elsewhere than at the changed directory and below it, the same stands as before. -/
theorem kindAt?_modify_of_not_prefix {loc : Location} (h : ¬ place <+: loc) :
    (t.modify change place).kindAt? loc = t.kindAt? loc := by
  induction place generalizing t loc with
  | nil => exact absurd List.nil_prefix h
  | cons name place ih =>
    cases t with
    | file content => rw [modify]
    | dir entries others =>
      rw [modify]
      cases hu : entries.lookup name with
      | none => rfl
      | some u =>
        cases loc with
        | nil => rfl
        | cons m loc =>
          simp only [kindAt?, find?_dir_cons, Dictionary.lookup_insert]
          by_cases hm : m = name
          · subst hm
            rw [if_pos rfl, hu]
            exact ih fun hp => h ((List.prefix_cons_inj m).2 hp)
          · rw [if_neg hm]

theorem kindAt?_modify_self (h : t.kindAt? place = some .dir) :
    (t.modify change place).kindAt? place = some .dir := by
  obtain ⟨es, os, hes⟩ := kindAt?_eq_dir_iff.1 h
  have hfind := find?_modify_append change hes []
  rw [List.append_nil] at hfind
  exact kindAt?_eq_dir_iff.2 ⟨change es, os, hfind⟩

theorem kindAt?_modify_cons (h : t.find? place = some (.dir es os)) (name : String)
    (rest : Location) :
    (t.modify change place).kindAt? (place ++ name :: rest) =
      ((change es).lookup name).bind fun u => u.kindAt? rest := by
  rw [kindAt?, find?_modify_append change h, find?_dir_cons]
  cases (change es).lookup name <;> rfl

end Modify

/-! ### Putting an entry and taking one out -/

section Entry

variable {t u : Tree} {place : Location} {name : String}

/-- A location is under a changed directory, is that directory, or is elsewhere. -/
theorem location_cases (place loc : Location) :
    (∃ name rest, loc = place ++ name :: rest) ∨ loc = place ∨ ¬ place <+: loc := by
  by_cases h : place <+: loc
  · obtain ⟨rest, rfl⟩ := h
    cases rest with
    | nil => exact .inr (.inl (List.append_nil place))
    | cons name rest => exact .inl ⟨name, rest, rfl⟩
  · exact .inr (.inr h)

theorem kindAt?_append_cons {es : List (String × Tree)} {os : List (RawName × Tree)}
    (h : t.find? place = some (.dir es os)) (name : String) (rest : Location) :
    t.kindAt? (place ++ name :: rest) = (es.lookup name).bind fun u => u.kindAt? rest := by
  rw [kindAt?_append, h, Option.bind_some, kindAt?, find?_dir_cons]
  cases es.lookup name <;> rfl

/-- Putting an entry with nothing below it at a place where no directory stands changes what
    stands at this place only. -/
theorem kindAt?_put (hdir : t.kindAt? place = some .dir)
    (hvacant : t.kindAt? (place ++ [name]) ≠ some .dir)
    (hleaf : ∀ n rest, u.kindAt? (n :: rest) = none) (loc : Location) :
    (t.put place name u).kindAt? loc =
      if loc = place ++ [name] then some u.kind else t.kindAt? loc := by
  obtain ⟨es, os, hes⟩ := kindAt?_eq_dir_iff.1 hdir
  rcases location_cases place loc with ⟨m, rest, rfl⟩ | rfl | hnot
  · rw [put, kindAt?_modify_cons _ hes, Dictionary.lookup_insert]
    by_cases hm : m = name
    · subst hm
      rw [if_pos rfl, Option.bind_some]
      cases rest with
      | nil => rw [if_pos rfl]; rfl
      | cons n rest =>
        rw [hleaf, if_neg (by simp), List.append_cons]
        exact (kindAt?_append_of_ne_dir (List.cons_ne_nil n rest) hvacant).symm
    · rw [if_neg hm, if_neg (by simp [hm]), kindAt?_append_cons hes]
  · rw [put, kindAt?_modify_self _ hdir, if_neg (by simp), hdir]
  · rw [put, kindAt?_modify_of_not_prefix _ hnot, if_neg]
    rintro rfl
    exact hnot (List.prefix_append place [name])

theorem lookup_filter_ne (es : List (String × Tree)) (name k : String) :
    (es.filter (·.1 != name)).lookup k = if k = name then none else es.lookup k := by
  induction es with
  | nil =>
    by_cases h : k = name
    · rw [if_pos h]; rfl
    · rw [if_neg h]; rfl
  | cons e es ih =>
    obtain ⟨m, v⟩ := e
    rw [List.filter_cons]
    by_cases hm : m = name
    · subst hm
      rw [if_neg (by simp), ih, Dictionary.lookup_cons]
      by_cases hk : k = m
      · rw [if_pos hk, if_pos hk]
      · rw [if_neg hk, if_neg hk, if_neg hk]
    · rw [if_pos (by simpa using hm), Dictionary.lookup_cons, Dictionary.lookup_cons, ih]
      by_cases hk : k = m
      · rw [if_pos hk, if_pos hk, if_neg (hk ▸ hm)]
      · rw [if_neg hk, if_neg hk]

/-- Taking an entry out leaves nothing at its place and below, and changes nothing elsewhere. -/
theorem kindAt?_erase (hdir : t.kindAt? place = some .dir) (loc : Location) :
    (t.erase place name).kindAt? loc =
      if place ++ [name] <+: loc then none else t.kindAt? loc := by
  obtain ⟨es, os, hes⟩ := kindAt?_eq_dir_iff.1 hdir
  rcases location_cases place loc with ⟨m, rest, rfl⟩ | rfl | hnot
  · have hbelow : place ++ [name] <+: place ++ m :: rest ↔ name = m := by
      rw [List.prefix_append_right_inj, List.cons_prefix_cons]
      exact and_iff_left List.nil_prefix
    rw [erase, kindAt?_modify_cons _ hes, lookup_filter_ne]
    by_cases hm : m = name
    · rw [if_pos hm, if_pos (hbelow.2 hm.symm), Option.bind_none]
    · rw [if_neg hm, if_neg fun h => hm (hbelow.1 h).symm, kindAt?_append_cons hes]
  · rw [erase, kindAt?_modify_self _ hdir, if_neg, hdir]
    intro hp
    exact absurd hp.length_le (by simp)
  · rw [erase, kindAt?_modify_of_not_prefix _ hnot, if_neg]
    intro hp
    exact hnot ((List.prefix_append place [name]).trans hp)

/-- What is put where nothing stands and taken out again has changed nothing. -/
theorem kindAt?_erase_put (hdir : t.kindAt? place = some .dir)
    (hvacant : t.kindAt? (place ++ [name]) = none)
    (hleaf : ∀ n rest, u.kindAt? (n :: rest) = none) (loc : Location) :
    ((t.put place name u).erase place name).kindAt? loc = t.kindAt? loc := by
  have hput := kindAt?_put hdir (by rw [hvacant]; exact nofun) hleaf
  have hdir' : (t.put place name u).kindAt? place = some .dir := by
    rw [hput, if_neg (by simp), hdir]
  rw [kindAt?_erase hdir']
  by_cases hp : place ++ [name] <+: loc
  · rw [if_pos hp]
    obtain ⟨rest, rfl⟩ := hp
    by_cases hne : rest = []
    · rw [hne, List.append_nil, hvacant]
    · exact (kindAt?_append_of_ne_dir hne (by rw [hvacant]; exact nofun)).symm
  · rw [if_neg hp, hput, if_neg]
    rintro rfl
    exact hp (List.prefix_refl _)

theorem kindAt?_file_cons (content : ByteArray) (name : String) (rest : Location) :
    (Tree.file content).kindAt? (name :: rest) = none := rfl

theorem kindAt?_emptyDir_cons (name : String) (rest : Location) :
    emptyDir.kindAt? (name :: rest) = none := rfl

end Entry

end WorkspaceTemplates.Tree

/-
  WorkspaceTemplates/Proofs/Files/Raw.lean
  ========================================
  **Entries whose names are no texts.**

  No path leads to such an entry, so nothing that changes a disk by its paths brings
  one in or takes one away: a changed directory keeps them, and what is put in or
  taken out has none.  This is proved for each step that changes a tree, and carried
  through a whole run by the laws of sequences and of handled failures (`LeavesRaw`).
-/
import WorkspaceTemplates.Proofs.Files.Write

namespace WorkspaceTemplates

/-! ### What a change of a tree does to them -/

namespace Tree

/-- The entries at a location whose names are no texts. -/
def rawAt (t : Tree) (loc : Location) : List (RawName × Tree) := (t.find? loc).elim [] others

section RawAt

variable {t u : Tree} {place loc : Location} {name : String} {es : List (String × Tree)}
  {os : List (RawName × Tree)}

theorem rawAt_dir_cons (rest : Location) :
    (Tree.dir es os).rawAt (name :: rest) = (es.lookup name).elim [] fun u => u.rawAt rest := by
  rw [rawAt, find?_dir_cons]
  cases es.lookup name <;> rfl

theorem rawAt_append_cons (h : t.find? place = some (.dir es os)) (rest : Location) :
    t.rawAt (place ++ name :: rest) = (es.lookup name).elim [] fun u => u.rawAt rest := by
  rw [rawAt, find?_append, h, Option.bind_some]
  exact rawAt_dir_cons rest

/-- Where no directory stands, there are none, and none below either. -/
theorem rawAt_append_of_ne_dir (h : t.kindAt? place ≠ some .dir) (rest : Location) :
    t.rawAt (place ++ rest) = [] := by
  rw [rawAt, find?_append]
  cases hplace : t.find? place with
  | none => rfl
  | some u =>
    cases u with
    | dir es os => exact absurd (kindAt?_eq_dir_iff.2 ⟨es, os, hplace⟩) h
    | file content => cases rest <;> rfl

/-- An entry that is no directory has none. -/
theorem elim_lookup_of_ne_dir (hplace : t.find? place = some (.dir es os))
    (hfree : t.kindAt? (place ++ [name]) ≠ some .dir) (rest : Location) :
    ((es.lookup name).elim [] fun u => u.rawAt rest) = [] := by
  have hbelow := rawAt_append_of_ne_dir hfree rest
  rwa [List.append_assoc, List.singleton_append, rawAt_append_cons hplace] at hbelow

/-- What a change of a directory leaves as it was there, it leaves as it was everywhere. -/
theorem rawAt_modify {change : List (String × Tree) → List (String × Tree)}
    (h : ∀ es os, t.find? place = some (.dir es os) → ∀ name rest,
      (Tree.dir (change es) os).rawAt (name :: rest) = (Tree.dir es os).rawAt (name :: rest)) :
    (t.modify change place).rawAt loc = t.rawAt loc := by
  induction place generalizing t loc with
  | nil =>
    cases t with
    | file content => rfl
    | dir es os =>
      cases loc with
      | nil => rfl
      | cons m rest => exact h es os rfl m rest
  | cons n place ih =>
    cases t with
    | file content => rfl
    | dir es os =>
      rw [modify]
      cases hu : es.lookup n with
      | none => rfl
      | some u =>
        cases loc with
        | nil => rfl
        | cons m rest =>
          simp only [rawAt_dir_cons, Dictionary.lookup_insert]
          by_cases hm : m = n
          · rw [if_pos hm, hm, hu]
            apply ih
            intro es' os' hfind
            apply h es' os'
            rw [find?_dir_cons, hu, Option.bind_some, hfind]
          · rw [if_neg hm]

/-- An entry that has none itself can be put in the place of anything but a directory. -/
theorem rawAt_put (hfree : t.kindAt? (place ++ [name]) ≠ some .dir)
    (hnone : ∀ rest, u.rawAt rest = []) : (t.put place name u).rawAt loc = t.rawAt loc := by
  apply rawAt_modify
  intro es os hplace m rest
  rw [rawAt_dir_cons, rawAt_dir_cons, Dictionary.lookup_insert]
  by_cases hm : m = name
  · rw [if_pos hm, hm, elim_lookup_of_ne_dir hplace hfree]
    exact hnone rest
  · rw [if_neg hm]

/-- Anything but a directory can be taken out. -/
theorem rawAt_erase (hfree : t.kindAt? (place ++ [name]) ≠ some .dir) :
    (t.erase place name).rawAt loc = t.rawAt loc := by
  apply rawAt_modify
  intro es os hplace m rest
  rw [rawAt_dir_cons, rawAt_dir_cons, lookup_filter_ne]
  by_cases hm : m = name
  · rw [if_pos hm, hm, elim_lookup_of_ne_dir hplace hfree]
    rfl
  · rw [if_neg hm]

theorem rawAt_emptyDir (rest : Location) : emptyDir.rawAt rest = [] := by
  cases rest <;> rfl

theorem rawAt_file (content : ByteArray) (rest : Location) :
    (Tree.file content).rawAt rest = [] := by
  cases rest <;> rfl

end RawAt

end Tree

/-! ### Listings without them -/

/-- In a directory without them, the files with an extension are entries whose names are texts. -/
theorem Disk.of_mem_filesWithExtension {d : Disk} {dir extension : String} {name : FileName}
    {loc : Location} (hloc : d.locate dir = .ok loc) (hraw : d.tree.rawAt loc = [])
    (h : name ∈ d.filesWithExtension dir extension) :
    ∃ s, name = .text s ∧ Path.extension? s = some extension ∧
      d.tree.kindAt? (loc ++ [s]) ≠ none := by
  simp only [filesWithExtension, List.mem_map, List.mem_filter, Bool.and_eq_true] at h
  obtain ⟨e, ⟨he, -, hextension⟩, rfl⟩ := h
  rw [entries] at he
  cases hlook : d.look dir with
  | error f =>
    rw [hlook] at he
    cases he
  | ok u =>
    rw [hlook] at he
    obtain ⟨loc', hloc', hfind⟩ := look_eq_ok_iff.1 hlook
    rw [hloc] at hloc'
    cases hloc'
    rcases Tree.mem_listing_iff.1 he with ⟨c, hc, rfl⟩ | ⟨o, ho, -⟩
    · refine ⟨c.1, rfl, beq_iff_eq.1 hextension, ?_⟩
      rw [Ne, Tree.kindAt?_eq_none_iff]
      exact Tree.find?_concat_of_mem_children hfind hc
    · have hothers := (Tree.rawChildren_sublist u).subset ho
      rw [Tree.rawAt, hfind] at hraw
      rw [show u.others = [] from hraw] at hothers
      cases hothers

/-! ### Runs that leave them as they are -/

namespace DiskM

open Stateful

variable {α β : Type}

/-- However it ends, a computation leaves the entries whose names are no texts as they are. -/
def LeavesRaw (m : DiskM α) : Prop :=
  ∀ d loc, (m.runOn d).2.tree.rawAt loc = d.tree.rawAt loc

theorem LeavesRaw.rawAt_eq {m : DiskM α} (h : LeavesRaw m) {d d' : Disk} {r : Except Fault α}
    (hrun : m.runOn d = (r, d')) (loc : Location) : d'.tree.rawAt loc = d.tree.rawAt loc := by
  rw [← h d loc, hrun]

theorem leavesRaw_pure (x : α) : LeavesRaw (pure x) := fun _ _ => rfl

theorem LeavesRaw.bind {m : DiskM α} {f : α → DiskM β} (h : LeavesRaw m)
    (hf : ∀ x, LeavesRaw (f x)) : LeavesRaw (m >>= f) := by
  intro d loc
  rw [runOn_bind, ← h d loc]
  rcases m.runOn d with ⟨e | x, d'⟩
  · rfl
  · exact hf x d' loc

theorem LeavesRaw.tryCatch {m : DiskM α} {handle : Fault → DiskM α} (h : LeavesRaw m)
    (hhandle : ∀ f, LeavesRaw (handle f)) : LeavesRaw (tryCatch m handle) := by
  intro d loc
  rw [runOn_tryCatch, ← h d loc]
  rcases m.runOn d with ⟨e | x, d'⟩
  · exact hhandle e d' loc
  · rfl

theorem leavesRaw_makeDir (path : String) : LeavesRaw (makeDir path) := by
  intro d loc
  rcases runOn_makeDir path d with ⟨place, name, -, hvacant, hrun⟩ | ⟨f, hrun⟩
  · rw [hrun]
    exact Tree.rawAt_put (by rw [hvacant]; exact nofun) Tree.rawAt_emptyDir
  · rw [hrun]

theorem leavesRaw_unlessDir (path : String) (f : Fault) : LeavesRaw (unlessDir path f) := by
  intro d loc
  rw [runOn_unlessDir]

theorem leavesRaw_makeNested (paths : List String) : LeavesRaw (makeNested paths) := by
  induction paths with
  | nil => exact leavesRaw_pure ()
  | cons path above ih =>
    apply (leavesRaw_makeDir path).tryCatch
    intro f
    split
    · exact ih.bind fun _ => (leavesRaw_makeDir path).tryCatch (leavesRaw_unlessDir path)
    · exact leavesRaw_unlessDir path f

theorem leavesRaw_writeAtomically (path : String) (content : ByteArray) :
    LeavesRaw (writeAtomically path content) := by
  intro d loc
  have hnested := leavesRaw_makeNested (Path.ancestors path).tail d loc
  rcases hmade : (makeNested (Path.ancestors path).tail).runOn d with ⟨e | ⟨⟩, d₁⟩
  · rw [hmade] at hnested
    rw [writeAtomically, runOn_bind_of_error hmade, hnested]
  · rw [hmade] at hnested
    rw [runOn_writeAtomically hmade, ← hnested]
    rcases hholder : d₁.holder path with e | ⟨place, es⟩
    · rfl
    · obtain ⟨os, hfind⟩ := holder_spec hholder
      -- the draft comes and goes in a place that was vacant
      have hdrafted : (drafted d₁ place es content).tree.rawAt loc = d₁.tree.rawAt loc :=
        Tree.rawAt_put (by rw [kindAt?_freshName hfind]; simp) (Tree.rawAt_file content)
      have herased : ((drafted d₁ place es content).tree.erase place
          (Tree.freshName (es.map (·.1)))).rawAt loc = d₁.tree.rawAt loc := by
        rw [Tree.rawAt_erase, hdrafted]
        rw [kindAt?_drafted hfind, if_pos rfl]
        simp
      simp only
      rcases htarget : (drafted d₁ place es content).target path with e | ⟨goal, name⟩
      · exact herased
      · obtain ⟨-, hfree, -⟩ := kindAt?_moved hfind htarget
        refine Eq.trans (Tree.rawAt_put ?_ (Tree.rawAt_file content)) herased
        rw [kindAt?_erase_drafted hfind]
        exact hfree

end DiskM

end WorkspaceTemplates

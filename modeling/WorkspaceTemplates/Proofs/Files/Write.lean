/-
  WorkspaceTemplates/Proofs/Files/Write.lean
  ==========================================
  **What writing a file does to a disk.**

  Making directories turns vacant locations into directories, and only those to
  which one of the given paths leads (`Grown`).  Writing a file makes directories
  and then changes one location, the one to which its path leads: the file under
  the fresh name beside it leaves nothing behind.
-/
import WorkspaceTemplates.Proofs.Files.Disk
import WorkspaceTemplates.Proofs.Files.Run

namespace WorkspaceTemplates

/-! ### Making directories -/

/-- What stands at every location is as before, but for new directories at vacant locations to
which some of the paths lead. -/
structure Disk.Grown (paths : List String) (d d' : Disk) : Prop where
  workDir : d'.workDir = d.workDir
  kinds : ∀ loc, d'.tree.kindAt? loc = d.tree.kindAt? loc ∨
    (d.tree.kindAt? loc = none ∧ d'.tree.kindAt? loc = some .dir ∧
      ∃ path ∈ paths, d'.locate path = .ok loc)

namespace Disk.Grown

variable {paths : List String} {d d' d'' : Disk}

theorem refl (paths : List String) (d : Disk) : Grown paths d d := ⟨rfl, fun _ => .inl rfl⟩

theorem keeps (h : Grown paths d d') : Keeps d d' where
  workDir := h.workDir
  dir := by
    intro loc hloc
    rcases h.kinds loc with hsame | ⟨hnone, -⟩
    · rw [hsame, hloc]
    · rw [hnone] at hloc
      cases hloc

theorem trans (h : Grown paths d d') (h' : Grown paths d' d'') : Grown paths d d'' := by
  refine ⟨h'.workDir.trans h.workDir, ?_⟩
  intro loc
  rcases h.kinds loc with hsame | ⟨hnone, hdir, path, hpath, hloc⟩
  · rw [← hsame]
    exact h'.kinds loc
  · exact .inr ⟨hnone, h'.keeps.dir loc hdir, path, hpath, h'.keeps.locate hloc⟩

theorem of_subset {more : List String} (hsub : paths ⊆ more) (h : Grown paths d d') :
    Grown more d d' := by
  refine ⟨h.workDir, ?_⟩
  intro loc
  rcases h.kinds loc with hsame | ⟨hnone, hdir, path, hpath, hloc⟩
  · exact .inl hsame
  · exact .inr ⟨hnone, hdir, path, hsub hpath, hloc⟩

theorem put {path name : String} {place : Location} (hslot : d.slot path = .ok (place, some name))
    (hend : (Path.segments path).getLast? ≠ some "")
    (hvacant : d.tree.kindAt? (place ++ [name]) = none) :
    Grown [path] d { d with tree := d.tree.put place name Tree.emptyDir } := by
  obtain ⟨-, -, hdir, -⟩ := slot_spec hslot hend
  have hput := Tree.kindAt?_put hdir (by rw [hvacant]; exact nofun) Tree.kindAt?_emptyDir_cons
  have hkeeps : Keeps d { d with tree := d.tree.put place name Tree.emptyDir } := by
    refine ⟨rfl, ?_⟩
    intro loc hloc
    rw [hput, if_neg]
    · exact hloc
    · rintro rfl
      rw [hvacant] at hloc
      cases hloc
  refine ⟨rfl, ?_⟩
  intro loc
  by_cases hloc : loc = place ++ [name]
  · subst hloc
    refine .inr ⟨hvacant, ?_, path, List.mem_singleton_self path, ?_⟩
    · rw [hput, if_pos rfl]
      rfl
    · exact hkeeps.locate (locate_of_slot hslot hend)
  · exact .inl (by rw [hput, if_neg hloc])

end Disk.Grown

namespace DiskM

open Disk (Grown Keeps)
open Stateful

/-- One directory is made in a vacant slot, or nothing is changed. -/
theorem runOn_makeDir (path : String) (d : Disk) :
    (∃ place name, d.slot path = .ok (place, some name) ∧
      d.tree.kindAt? (place ++ [name]) = none ∧ (makeDir path).runOn d =
        (.ok (), { d with tree := d.tree.put place name Tree.emptyDir })) ∨
      ∃ f, (makeDir path).runOn d = (.error f, d) := by
  rw [makeDir, runOn_bind, runOn_get]
  simp only
  rcases hslot : d.slot path with e | ⟨place, _ | name⟩
  · exact .inr ⟨.file e, rfl⟩
  · exact .inr ⟨.file .alreadyExists, rfl⟩
  · simp only
    by_cases hthere : (d.tree.find? (place ++ [name])).isSome = true
    · rw [if_pos hthere]
      exact .inr ⟨.file .alreadyExists, rfl⟩
    · rw [if_neg hthere]
      refine .inl ⟨place, name, rfl, Tree.kindAt?_eq_none_iff.2 ?_, rfl⟩
      simpa using hthere

theorem runOn_unlessDir (path : String) (f : Fault) (d : Disk) :
    (unlessDir path f).runOn d = (if d.isDir path then .ok () else .error f, d) := by
  rw [unlessDir, runOn_bind, runOn_ask]
  simp only
  split
  · rfl
  · rfl

theorem grown_of_retry {path : String} {d d' : Disk} {r : Except Fault Unit}
    (hend : (Path.segments path).getLast? ≠ some "")
    (h : (tryCatch (makeDir path) (unlessDir path)).runOn d = (r, d')) :
    Grown [path] d d' := by
  rw [runOn_tryCatch] at h
  rcases runOn_makeDir path d with ⟨place, name, hslot, hvacant, hrun⟩ | ⟨f, hrun⟩
  · rw [hrun] at h
    cases h
    exact .put hslot hend hvacant
  · rw [hrun] at h
    simp only [runOn_unlessDir, Prod.mk.injEq] at h
    rw [← h.2]
    exact .refl [path] d

/-- Making nested directories changes nothing but vacant locations of their paths, whether all of
them can be made or not. -/
theorem grown_of_makeNested {paths : List String} {d d' : Disk} {r : Except Fault Unit}
    (hend : ∀ path ∈ paths, (Path.segments path).getLast? ≠ some "")
    (h : (makeNested paths).runOn d = (r, d')) : Grown paths d d' := by
  induction paths generalizing d d' r with
  | nil =>
    cases h
    exact .refl [] d
  | cons path above ih =>
    have hfirst := hend path List.mem_cons_self
    have hhead : [path] ⊆ path :: above := by simp
    rw [makeNested, runOn_tryCatch] at h
    rcases runOn_makeDir path d with ⟨place, name, hslot, hvacant, hrun⟩ | ⟨f, hrun⟩
    · rw [hrun] at h
      cases h
      exact (Grown.put hslot hfirst hvacant).of_subset hhead
    · rw [hrun] at h
      simp only at h
      split at h
      · rw [runOn_bind] at h
        rcases habove : (makeNested above).runOn d with ⟨_ | _, d₁⟩
        all_goals
          have hgrown := (ih (fun p hp => hend p (List.mem_cons_of_mem path hp)) habove).of_subset
            (List.subset_cons_self path above)
          rw [habove] at h
        · cases h
          exact hgrown
        · exact hgrown.trans ((grown_of_retry hfirst h).of_subset hhead)
      · simp only [runOn_unlessDir, Prod.mk.injEq] at h
        rw [← h.2]
        exact .refl _ d

/-! ### Writing a file -/

theorem holder_spec {d : Disk} {path : String} {place : Location} {es : List (String × Tree)}
    (h : d.holder path = .ok (place, es)) : ∃ os, d.tree.find? place = some (.dir es os) := by
  rw [Disk.holder] at h
  split at h
  · cases h
  · split at h
    · cases h
    · split at h
      · rename_i os hfind
        cases h
        exact ⟨os, hfind⟩
      · cases h
      · cases h

/-- A file can be moved to the slot of a path that does not end in a slash, unless a directory
stands there. -/
theorem target_spec {d : Disk} {path name : String} {place : Location}
    (h : d.target path = .ok (place, name)) :
    d.slot path = .ok (place, some name) ∧ (Path.segments path).getLast? ≠ some "" ∧
      d.tree.kindAt? (place ++ [name]) ≠ some .dir := by
  rw [Disk.target] at h
  split at h
  · cases h
  · cases h
  · rename_i hslot
    split at h
    · cases h
    · rename_i hslash
      split at h
      · cases h
      · rename_i hdir
        cases h
        refine ⟨hslot, Path.getLast?_segments ?_ (by simpa using hslash), ?_⟩
        · rintro rfl
          cases hslot
        · intro hkind
          obtain ⟨es, os, hes⟩ := Tree.kindAt?_eq_dir_iff.1 hkind
          rw [hes] at hdir
          exact hdir rfl

theorem kindAt?_freshName {t : Tree} {place : Location} {es : List (String × Tree)}
    {os : List (RawName × Tree)} (h : t.find? place = some (.dir es os)) :
    t.kindAt? (place ++ [Tree.freshName (es.map (·.1))]) = none := by
  have hl : es.lookup (Tree.freshName (es.map (·.1))) = none := by
    apply List.lookup_eq_none_iff.2
    intro e he
    apply bne_iff_ne.2
    intro heq
    apply Tree.freshName_not_mem (es.map (·.1))
    rw [heq]
    exact List.mem_map_of_mem he
  rw [Tree.kindAt?_append_cons h, hl, Option.bind_none]

/-- The disk while a file stands under a fresh name beside some entries. -/
def drafted (d : Disk) (place : Location) (es : List (String × Tree)) (content : ByteArray) :
    Disk :=
  { d with tree := d.tree.put place (Tree.freshName (es.map (·.1))) (.file content) }

section Drafted

variable {d : Disk} {place : Location} {es : List (String × Tree)} {os : List (RawName × Tree)}
  (h : d.tree.find? place = some (.dir es os)) (content : ByteArray)

include h

theorem kindAt?_drafted (loc : Location) :
    (drafted d place es content).tree.kindAt? loc =
      if loc = place ++ [Tree.freshName (es.map (·.1))] then some (.file content)
      else d.tree.kindAt? loc :=
  Tree.kindAt?_put (Tree.kindAt?_eq_dir_iff.2 ⟨es, os, h⟩)
    (by rw [kindAt?_freshName h]; exact nofun)
    (Tree.kindAt?_file_cons content) loc

theorem kindAt?_erase_drafted (loc : Location) :
    ((drafted d place es content).tree.erase place (Tree.freshName (es.map (·.1)))).kindAt? loc =
      d.tree.kindAt? loc :=
  Tree.kindAt?_erase_put (Tree.kindAt?_eq_dir_iff.2 ⟨es, os, h⟩) (kindAt?_freshName h)
    (Tree.kindAt?_file_cons content) loc

/-- A draft stands in no one's way: what stood anywhere before still stands there. -/
theorem kindAt?_drafted_of_there {loc : Location} (hthere : d.tree.kindAt? loc ≠ none) :
    (drafted d place es content).tree.kindAt? loc = d.tree.kindAt? loc := by
  rw [kindAt?_drafted h, if_neg]
  rintro rfl
  exact hthere (kindAt?_freshName h)

theorem keeps_drafted : Keeps d (drafted d place es content) where
  workDir := rfl
  dir loc hloc := by
    rw [kindAt?_drafted_of_there h content (by rw [hloc]; exact nofun), hloc]

theorem drafted_keeps : Keeps (drafted d place es content) d where
  workDir := rfl
  dir loc hloc := by
    rw [kindAt?_drafted h] at hloc
    split at hloc
    · cases hloc
    · exact hloc

end Drafted

/-- How a file is written once the directories above it are there. -/
theorem runOn_writeAtomically {path : String} {content : ByteArray} {d d₁ : Disk}
    (hmade : (makeNested (Path.ancestors path).tail).runOn d = (.ok (), d₁)) :
    (writeAtomically path content).runOn d =
      match d₁.holder path with
      | .error e => (.error (.file e), d₁)
      | .ok (place, es) =>
        let erased := (drafted d₁ place es content).tree.erase place (Tree.freshName (es.map (·.1)))
        match (drafted d₁ place es content).target path with
        | .error e => (.error (.file e), { d₁ with tree := erased })
        | .ok (goal, name) =>
          (.ok (), { d₁ with tree := erased.put goal name (.file content) }) := by
  rw [writeAtomically, runOn_bind, hmade]
  simp only [runOn_bind, runOn_get]
  rcases d₁.holder path with e | ⟨place, es⟩
  · rfl
  · simp only [runOn_bind, runOn_changeTree, runOn_get]
    rw [← drafted]
    rcases (drafted d₁ place es content).target path with e | ⟨goal, name⟩ <;> rfl

/-- A file that could be written had a place for its draft and one for itself. -/
theorem exists_of_writeAtomically {path : String} {content : ByteArray} {d d' : Disk}
    (h : (writeAtomically path content).runOn d = (.ok (), d')) :
    ∃ d₁ place es goal name, (makeNested (Path.ancestors path).tail).runOn d = (.ok (), d₁) ∧
      d₁.holder path = .ok (place, es) ∧
      (drafted d₁ place es content).target path = .ok (goal, name) ∧
      d' = { d₁ with tree := ((drafted d₁ place es content).tree.erase place
        (Tree.freshName (es.map (·.1)))).put goal name (.file content) } := by
  have hrun := h
  rw [writeAtomically, runOn_bind_eq_ok_iff] at hrun
  obtain ⟨_, d₁, hmade, -⟩ := hrun
  rw [runOn_writeAtomically hmade] at h
  split at h
  · cases h
  · rename_i place es hholder
    simp only at h
    split at h
    · cases h
    · rename_i goal name htarget
      cases h
      exact ⟨d₁, place, es, goal, name, hmade, hholder, htarget, rfl⟩

/-- Where a draft is moved to is the location of its path, and nothing else is changed. -/
theorem kindAt?_moved {path name : String} {content : ByteArray} {d : Disk}
    {place goal : Location} {es : List (String × Tree)} {os : List (RawName × Tree)}
    (hfind : d.tree.find? place = some (.dir es os))
    (htarget : (drafted d place es content).target path = .ok (goal, name)) :
    d.locate path = .ok (goal ++ [name]) ∧ d.tree.kindAt? (goal ++ [name]) ≠ some .dir ∧
      ∀ loc, (((drafted d place es content).tree.erase place
          (Tree.freshName (es.map (·.1)))).put goal name (.file content)).kindAt? loc =
        if loc = goal ++ [name] then some (.file content) else d.tree.kindAt? loc := by
  have hback := drafted_keeps hfind content
  obtain ⟨hslot, hend, hfree⟩ := target_spec htarget
  have hgoal := hback.dir goal (Disk.slot_spec hslot hend).2.2.1
  have hfree' : d.tree.kindAt? (goal ++ [name]) ≠ some .dir :=
    fun hkind => hfree ((keeps_drafted hfind content).dir _ hkind)
  refine ⟨hback.locate (Disk.locate_of_slot hslot hend), hfree', ?_⟩
  intro loc
  have herase := kindAt?_erase_drafted hfind content
  rw [Tree.kindAt?_put (by rw [herase, hgoal]) (by rw [herase]; exact hfree')
    (Tree.kindAt?_file_cons content), herase]
  rfl

/-- A file that is written stands at the location of its path, and nothing else is changed once
the directories above are there. -/
theorem writeAtomically_spec {path : String} {content : ByteArray} {d d' : Disk}
    (h : (writeAtomically path content).runOn d = (.ok (), d')) :
    ∃ d₁ loc, (makeNested (Path.ancestors path).tail).runOn d = (.ok (), d₁) ∧
      d₁.locate path = .ok loc ∧ d₁.tree.kindAt? loc ≠ some .dir ∧ d'.workDir = d₁.workDir ∧
      ∀ l, d'.tree.kindAt? l = if l = loc then some (.file content) else d₁.tree.kindAt? l := by
  obtain ⟨d₁, place, es, goal, name, hmade, hholder, htarget, rfl⟩ := exists_of_writeAtomically h
  obtain ⟨os, hfind⟩ := holder_spec hholder
  obtain ⟨hloc, hfree, hkinds⟩ := kindAt?_moved hfind htarget
  exact ⟨d₁, goal ++ [name], hmade, hloc, hfree, rfl, hkinds⟩

/-- What was written is the text of the file. -/
theorem readText_of_writeAtomically {path text : String} {d d' : Disk}
    (h : (writeAtomically path text.toUTF8).runOn d = (.ok (), d')) :
    d'.readText path = .ok text := by
  obtain ⟨d₁, loc, -, hloc, hfree, hwork, hkinds⟩ := writeAtomically_spec h
  have hkeeps : Disk.Keeps d₁ d' := by
    refine ⟨hwork, ?_⟩
    intro l hl
    rw [hkinds, if_neg]
    · exact hl
    · rintro rfl
      exact hfree hl
  exact Disk.readText_of_kindAt? (hkeeps.locate hloc) (by rw [hkinds, if_pos rfl])

/-- A file that cannot be written leaves nothing behind but the directories that were made for
it. -/
theorem writeAtomically_error_spec {path : String} {content : ByteArray} {d d' : Disk} {f : Fault}
    (h : (writeAtomically path content).runOn d = (.error f, d')) :
    ∃ d₁ r, (makeNested (Path.ancestors path).tail).runOn d = (r, d₁) ∧
      d'.workDir = d₁.workDir ∧ ∀ l, d'.tree.kindAt? l = d₁.tree.kindAt? l := by
  rcases hmade : (makeNested (Path.ancestors path).tail).runOn d with ⟨_ | _, d₁⟩
  · rw [writeAtomically, runOn_bind, hmade] at h
    cases h
    exact ⟨_, _, rfl, rfl, fun _ => rfl⟩
  · rw [runOn_writeAtomically hmade] at h
    refine ⟨d₁, _, rfl, ?_⟩
    split at h
    · cases h
      exact ⟨rfl, fun _ => rfl⟩
    · rename_i place es hholder
      obtain ⟨os, hfind⟩ := holder_spec hholder
      simp only at h
      split at h
      · cases h
        exact ⟨rfl, kindAt?_erase_drafted hfind content⟩
      · cases h

end DiskM

end WorkspaceTemplates

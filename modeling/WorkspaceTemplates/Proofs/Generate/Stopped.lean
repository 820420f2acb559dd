/-
  WorkspaceTemplates/Proofs/Generate/Stopped.lean
  ===============================================
  **Generations that stop at a file.**

  A generation that fails has failed to plan, and then nothing has changed, or it has
  come to a file that cannot be written.  In the latter case the files before that
  one are done as if it had gone through, and from that one on nothing is touched;
  every file that is there afterwards was there before or is one of those done
  (`stopped_of_generate`).
-/
import WorkspaceTemplates.Proofs.Generate.Run

namespace WorkspaceTemplates.Generate

open Disk (Leads Over)
open WorkspaceTemplates.Path (segments)

/-- What is left of writing files below a base when some of them are done and one cannot be
written. -/
structure Stopped (base : Location) (overwrite : Bool) (done : List PlannedFile)
    (file : PlannedFile) (rest : List PlannedFile) (d d' : Disk) : Prop where
  /-- A skipped file is as before, and so is what stands below it if it is a directory. -/
  skipped : ∀ f ∈ done, outcomeOn d base overwrite f = .skipped →
    ∀ loc, base ++ segments f.label <+: loc → d'.tree.kindAt? loc = d.tree.kindAt? loc
  written : ∀ f ∈ done, outcomeOn d base overwrite f ≠ .skipped →
    d'.tree.kindAt? (base ++ segments f.label) = some (.file f.text.toUTF8)
  pending : ∀ f ∈ file :: rest, ∀ loc, base ++ segments f.label <+: loc →
    d'.tree.kindAt? loc = d.tree.kindAt? loc
  /-- No file is half written, and none is left under a fresh name. -/
  whole : ∀ loc content, d'.tree.kindAt? loc = some (.file content) →
    d.tree.kindAt? loc = some (.file content) ∨
      ∃ f ∈ done, loc = base ++ segments f.label ∧ content = f.text.toUTF8
  others : ∀ loc, (∀ f ∈ done, loc ≠ base ++ segments f.label) →
    d'.tree.kindAt? loc = d.tree.kindAt? loc ∨
      (d.tree.kindAt? loc = none ∧ d'.tree.kindAt? loc = some .dir ∧
        ∃ f ∈ done ++ [file], Over loc (base ++ segments f.label))
  /-- Entries whose names are no texts are neither made nor lost. -/
  raw : ∀ loc, d'.tree.rawAt loc = d.tree.rawAt loc
  workDir : d'.workDir = d.workDir

section Stopped

variable {d d' : Disk} {root : String} {base : Location} {overwrite : Bool}
  {done rest files : List PlannedFile} {file : PlannedFile}

/-- A file of which something is written stands where one that is done belongs, or it was there. -/
theorem Progress.whole (h : Progress base overwrite files done d d') {loc : Location}
    {content : ByteArray} (hfile : d'.tree.kindAt? loc = some (.file content)) :
    d.tree.kindAt? loc = some (.file content) ∨
      ∃ f ∈ done, loc = base ++ segments f.label ∧ content = f.text.toUTF8 := by
  by_cases hdone : ∃ f ∈ done, loc = base ++ segments f.label
  · obtain ⟨f, hf, rfl⟩ := hdone
    by_cases hskipped : outcomeOn d base overwrite f = .skipped
    · rw [h.skipped f hf hskipped] at hfile
      exact .inl hfile
    · rw [h.held f hf hskipped] at hfile
      cases hfile
      exact .inr ⟨f, hf, rfl, rfl⟩
  · rcases h.others loc (fun f hf heq => hdone ⟨f, hf, heq⟩) with hsame | ⟨-, hdir, -⟩
    · rw [hsame] at hfile
      exact .inl hfile
    · rw [hdir] at hfile
      cases hfile

theorem Stopped.of_progress (hlaid : Laid root (done ++ file :: rest))
    (h : Progress base overwrite (done ++ [file]) done d d') :
    Stopped base overwrite done file rest d d' := by
  have hsub : done ++ [file] ⊆ done ++ file :: rest := by
    intro f hf
    rcases List.mem_append.1 hf with hf | hf
    · exact List.mem_append_left _ hf
    · exact List.mem_append_right _ (List.mem_singleton.1 hf ▸ List.mem_cons_self)
  -- what was planned first is apart from each other
  have hfirst : Laid root (done ++ [file]) := by
    refine ⟨fun f hf => hlaid.ordinary f (hsub hf), fun f hf => hlaid.path f (hsub hf),
      hlaid.apart.sublist ?_⟩
    exact (List.Sublist.refl done).append ((List.nil_sublist rest).cons_cons file)
  refine ⟨?_, h.held, ?_, fun loc content hfile => h.whole hfile, h.others, h.raw,
    h.keeps.workDir⟩
  · intro f hf hskipped loc hloc
    exact h.untouched_of_skipped hfirst (List.subset_append_left done [file]) hf hskipped hloc
  · intro f hf loc hloc
    have hmem : f ∈ done ++ file :: rest := List.mem_append_right _ hf
    refine h.untouched (fun g hg => hlaid.same_or_apart hmem (hsub hg)) hloc ?_
    intro g hg heq
    have hapart := (List.pairwise_append.1 hlaid.apart).2.2 g hg f hf
    exact hapart.symm.far hloc (by rw [heq])

end Stopped

section Generate

variable {layers : List TemplateLayer} {options : GenerateOptions} {root : String} {ctx : Context}
  {base : Location} {d d' : Disk} {f : Fault}

/-- A generation that fails below a root, whether anything stands there or not, has changed
nothing, or all of its files up to some place are done and the others have not been touched. -/
theorem stopped_of_generate (hroot : d.Leads root base)
    (h : (generate layers options root ctx).runOn d = (.error f, d')) :
    (plan d layers options root (Engine.standard.normalize ctx) = .error f ∧ d' = d) ∨
      ∃ files done file rest e,
        plan d layers options root (Engine.standard.normalize ctx) = .ok files ∧
        files.map (·.label) =
          places (Selection.levels (Engine.standard.normalize ctx) options.forced)
            (Selection.commands (Engine.standard.normalize ctx)) ∧
        files = done ++ file :: rest ∧ f = .file e ∧
        Stopped base options.overwrite done file rest d d' := by
  rw [generate] at h
  simp only [Stateful.runOn_bind, DiskM.runOn_demand] at h
  rcases hplan : plan d layers options root (Engine.standard.normalize ctx) with e | files
  · rw [hplan] at h
    cases h
    exact .inl ⟨rfl, rfl⟩
  · rw [hplan] at h
    simp only at h
    have hplanned := plan_eq_ok hplan
    have hlaid := hplanned.laid (levels_sublist _ _) (commands_sublist _)
    rcases hwrite : (writeAll options.overwrite files).runOn d with ⟨r, d₁⟩
    rw [hwrite] at h
    rcases progress_of_writeAll hroot hlaid hwrite with
      ⟨rfl, -⟩ | ⟨done, file, rest, e, rfl, rfl, hprogress⟩
    · cases h
    · cases h
      exact .inr ⟨_, done, file, rest, e, rfl, hplanned.labels, rfl, rfl,
        .of_progress hlaid hprogress⟩

end Generate

/-- A directory in the place of the architecture rules stops a generation after it has replaced the
first rules and made the core rules. -/
theorem stopped_of_generate_started :
    (started [("level2-architecture.mdc", .folder [])]).Leads "ws" ["ws"] ∧
      ∃ d' files done file rest,
        (generate [.directory "t"] ⟨false, true, []⟩ "ws" .empty).runOn
          (started [("level2-architecture.mdc", .folder [])]) =
            (.error (.file .isADirectory), d') ∧
        files = done ++ file :: rest ∧
        Stopped ["ws"] true done file rest (started [("level2-architecture.mdc", .folder [])]) d' := by
  have hbase : (started [("level2-architecture.mdc", .folder [])]).origin "ws" ++
      Disk.named (segments "ws") = ["ws"] := by decide +kernel
  have hroot : (started [("level2-architecture.mdc", .folder [])]).Leads "ws" _ :=
    Disk.leads_of_plain _ (by decide +kernel)
  rw [hbase] at hroot
  have hrun : ((generate [.directory "t"] ⟨false, true, []⟩ "ws" .empty).runOn
      (started [("level2-architecture.mdc", .folder [])])).1 = .error (.file .isADirectory) := by
    decide +kernel
  have hplan : plan (started [("level2-architecture.mdc", .folder [])]) [.directory "t"]
      ⟨false, true, []⟩ "ws" (Engine.standard.normalize .empty) ≠
        .error (.file .isADirectory) := by
    decide +kernel
  obtain ⟨d', h⟩ := Stateful.exists_runOn_eq hrun
  rcases stopped_of_generate hroot h with ⟨herror, -⟩ |
    ⟨files, done, file, rest, e, -, -, hfiles, -, hstopped⟩
  · exact absurd herror hplan
  · exact ⟨hroot, d', files, done, file, rest, h, hfiles, hstopped⟩

end WorkspaceTemplates.Generate

/-
  WorkspaceTemplates/Proofs/Files/Outcome.lean
  ============================================
  **What becomes of writing a file.**

  Writing a file below a root ends in one of three ways (`Attempted`).  The file is
  written, and nothing else is changed but for missing directories above it, which
  are made.  Or something is in its way, a file above it or a directory in its place:
  then nothing is changed at all.  Or its path does not fit, for names and paths have
  a greatest length: then the directories above it may be new, and nothing else is.
  Such directories do stay (`writeAtomically_of_no_room`): the path of the draft is
  longer than that of the directory that holds it, and is not looked at before.
-/
import WorkspaceTemplates.Proofs.Files.Again
import WorkspaceTemplates.Proofs.Files.Location

namespace WorkspaceTemplates

open WorkspaceTemplates.Path (IsName Named segments)

/-! ### Ways to end -/

namespace Disk

/-- The system takes a path below a root, and that of its draft. -/
structure Fits (d : Disk) (root p : String) : Prop where
  isName : ∀ s ∈ segments p, IsName s
  takes : d.Takes (Path.join root p)

instance (d : Disk) (root p : String) : Decidable (d.Fits root p) :=
  decidable_of_iff ((∀ s ∈ segments p, IsName s) ∧ d.Takes (Path.join root p))
    ⟨fun h => ⟨h.1, h.2⟩, fun h => ⟨h.1, h.2⟩⟩

/-- A file stands at its path, in directories, and elsewhere the same stands as before. -/
structure Written (path : String) (goal : Location) (content : ByteArray) (d d' : Disk) : Prop where
  workDir : d'.workDir = d.workDir
  look : d'.look path = .ok (.file content)
  file : d'.tree.kindAt? goal = some (.file content)
  above : ∀ loc, Over loc goal → d'.tree.kindAt? loc = some .dir
  others : ∀ loc, ¬ loc <+: goal → d'.tree.kindAt? loc = d.tree.kindAt? loc
  raw : ∀ loc, d'.tree.rawAt loc = d.tree.rawAt loc

/-- The result of writing a file with a path below a root, and the disk that is left. -/
inductive Attempted (d : Disk) (root : String) (base : Location) (p : String)
    (content : ByteArray) : Except Fault Unit → Disk → Prop
  | written {d' : Disk} (clear : Clear d.tree base (segments p))
      (written : Written (Path.join root p) (base ++ segments p) content d d') :
      Attempted d root base p content (.ok ()) d'
  /-- A file stands above the file, or a directory in its place. -/
  | blocked {d' : Disk} (e : FileError) (blocked : ¬ Clear d.tree base (segments p))
      (same : Same d d') : Attempted d root base p content (.error (.file e)) d'
  /-- Nothing is in the way, but the path is too much for the system. -/
  | refused {d' : Disk} (e : FileError) (clear : Clear d.tree base (segments p))
      (unfit : ¬ d.Fits root p) (prepared : Prepared (base ++ segments p) d d') :
      Attempted d root base p content (.error (.file e)) d'

/-! ### Disks on which a file was attempted -/

section Attempt

variable {t : Tree} {d d' : Disk} {path : String} {base goal loc : Location}
  {names : List String} {content : ByteArray}

/-- Above whatever stands somewhere there are directories. -/
theorem Over.dir (h : Over loc goal) (hthere : t.kindAt? goal ≠ none) :
    t.kindAt? loc = some .dir := by
  obtain ⟨⟨rest, rfl⟩, hne⟩ := h
  exact Tree.kindAt?_of_append (by rintro rfl; exact hne (List.append_nil loc).symm) hthere

/-- A location below a base that is not clear is that of a directory, or one below a file. -/
theorem not_clear_iff :
    ¬ Clear t base names ↔
      t.kindAt? (base ++ names) = some .dir ∨
        ∃ xs content, xs <+: names.dropLast ∧ t.kindAt? (base ++ xs) = some (.file content) := by
  constructor
  · intro h
    by_contra hnot
    rw [not_or] at hnot
    exact h ⟨fun xs hxs content hfile => hnot.2 ⟨xs, content, hxs, hfile⟩, hnot.1⟩
  · rintro (hdir | ⟨xs, content, hxs, hfile⟩) h
    · exact h.free hdir
    · exact h.above xs hxs content hfile

/-- Below a vacant name nothing is in the way. -/
theorem Clear.of_vacant {name : String} {rest : List String} (hbase : t.kindAt? base = some .dir)
    (hvacant : t.kindAt? (base ++ [name]) = none) : Clear t base (name :: rest) := by
  have hbelow (xs : List String) : t.kindAt? (base ++ name :: xs) = none := by
    by_contra hthere
    rw [List.append_cons] at hthere
    by_cases hxs : xs = []
    · rw [hxs, List.append_nil] at hthere
      exact hthere hvacant
    · rw [Tree.kindAt?_of_append hxs hthere] at hvacant
      cases hvacant
  refine ⟨?_, by rw [hbelow]; exact nofun⟩
  intro xs hxs content
  cases xs with
  | nil =>
    rw [List.append_nil, hbase]
    exact nofun
  | cons u xs =>
    obtain ⟨rfl, -⟩ := List.cons_prefix_cons.1 (hxs.trans (List.dropLast_prefix _))
    rw [hbelow]
    exact nofun

/-- No directory is missing above one that is there. -/
theorem Prepared.same_of_dir (h : Prepared goal d d') (hdir : d.tree.kindAt? goal = some .dir) :
    Same d d' := by
  refine ⟨h.workDir, ?_, h.raw⟩
  intro loc
  rcases h.kinds loc with hsame | ⟨hvacant, -, hover⟩
  · exact hsame
  · rw [hover.dir (by rw [hdir]; exact nofun)] at hvacant
    cases hvacant

/-- No directory can be made above a location when a file stands above it: those over the file are
there, and there are none below it. -/
theorem Prepared.same_of_file (h : Prepared goal d d') (hle : loc <+: goal)
    (hfile : d.tree.kindAt? loc = some (.file content)) : Same d d' := by
  have hfile' : d'.tree.kindAt? loc = some (.file content) := by
    rcases h.kinds loc with hsame | ⟨hvacant, -⟩
    · rw [hsame, hfile]
    · rw [hfile] at hvacant
      cases hvacant
  refine ⟨h.workDir, ?_, h.raw⟩
  intro l
  rcases h.kinds l with hsame | ⟨hvacant, hdir, hover⟩
  · exact hsame
  · have hne : l ≠ loc := by
      rintro rfl
      rw [hfile] at hvacant
      cases hvacant
    rcases List.prefix_or_prefix_of_prefix hover.1 hle with hl | hl
    · rw [Over.dir ⟨hl, hne⟩ (by rw [hfile]; exact nofun)] at hvacant
      cases hvacant
    · rw [Over.dir ⟨hl, hne.symm⟩ (by rw [hdir]; exact nofun)] at hfile'
      cases hfile'

/-- An attempt that fails changes nothing when something was in its way. -/
theorem Prepared.same_of_not_clear (h : Prepared (base ++ names) d d')
    (hblocked : ¬ Clear d.tree base names) : Same d d' := by
  rcases not_clear_iff.1 hblocked with hdir | ⟨xs, content, hxs, hfile⟩
  · exact h.same_of_dir hdir
  · have hle : base ++ xs <+: base ++ names :=
      (List.prefix_append_right_inj base).2 (hxs.trans (List.dropLast_prefix names))
    exact h.same_of_file hle hfile

theorem Placed.written (h : Placed goal content d d') (hloc : d'.locate path = .ok goal) :
    Written path goal content d d' where
  workDir := h.workDir
  look := look_eq_ok_iff.2 ⟨goal, hloc, Tree.kindAt?_eq_file_iff.1 h.file⟩
  file := h.file
  above loc hover := hover.dir (by rw [h.file]; exact nofun)
  others loc hapart := by
    rcases h.others loc (by rintro rfl; exact hapart (List.prefix_refl loc)) with
      hsame | ⟨-, -, hover⟩
    · exact hsame
    · exact absurd hover.1 hapart
  raw := h.raw

/-- What was written had nothing in its way. -/
theorem Placed.clear (h : Placed (base ++ names) content d d') (hne : names ≠ []) :
    Clear d.tree base names := by
  refine ⟨?_, h.free⟩
  intro xs hxs file hfile
  have hlength := hxs.length_le
  rw [List.length_dropLast] at hlength
  have hpos := List.length_pos_of_ne_nil hne
  have hover : Over (base ++ xs) (base ++ names) := by
    refine ⟨(List.prefix_append_right_inj base).2 (hxs.trans (List.dropLast_prefix names)), ?_⟩
    intro heq
    rw [List.append_cancel_left heq] at hlength
    omega
  have hdir := hover.dir (t := d'.tree) (by rw [h.file]; exact nofun)
  rcases h.others _ hover.2 with hsame | ⟨hvacant, -⟩
  · rw [hsame, hfile] at hdir
    cases hdir
  · rw [hfile] at hvacant
    cases hvacant

end Attempt

end Disk

namespace DiskM

open Disk (Attempted Clear Passable Rooted Same Written)
open Stateful

/-! ### Paths without room for a draft -/

section NoRoom

variable {d : Disk} {root p s : String} {base : Location} {xs : List String}

/-- **Without room for a draft the directories above a file are made all the same**, and the file is
not. -/
theorem writeAtomically_of_no_room (content : ByteArray) (hroot : d.Rooted root base)
    (hp : ∀ u ∈ segments p, IsName u) (href : Disk.refusal? (Path.join root p) = none)
    (hsegs : segments p = xs ++ [s]) (hpass : Passable d.tree base xs)
    (hroom : Path.limit <
      (d.absolute (Path.parent (Path.join root p))).utf8ByteSize + Disk.freshRoom) :
    ∃ d', (writeAtomically (Path.join root p) content).runOn d =
        (.error (.file .invalidFilename), d') ∧
      d'.tree.kindAt? (base ++ xs) = some .dir := by
  obtain ⟨d', hmade, hprepared, hdir⟩ := exists_makeNested_join hroot hp href hsegs hpass
  have hholder : d'.holder (Path.join root p) = .error .invalidFilename := by
    rw [Disk.holder, hprepared.keeps.absolute, if_pos hroom]
  refine ⟨d', ?_, hdir⟩
  rw [runOn_writeAtomically hmade, hholder]

/-- Names that fit into a path with the location of the root, while a draft beside the last one does
not fit. -/
theorem writeAtomically_of_long_names (content : ByteArray)
    (hroot : d.Rooted (Disk.pathOf base) base) (hbase : base ≠ [])
    (hnames : ∀ u ∈ xs ++ [s], Disk.Nameable u)
    (hnul : ∀ u ∈ base ++ xs ++ [s], '\x00' ∉ u.toList)
    (hsize : Path.bytes (base ++ xs ++ [s]) ≤ Path.limit)
    (hroom : Path.limit < Path.bytes (base ++ xs) + Disk.freshRoom)
    (hpass : Passable d.tree base xs) :
    ∃ d', (writeAtomically (Path.join (Disk.pathOf base) (Path.ofSegments (xs ++ [s])))
        content).runOn d = (.error (.file .invalidFilename), d') ∧
      d'.tree.kindAt? (base ++ xs) = some .dir := by
  have hsegs : segments (Path.ofSegments (xs ++ [s])) = xs ++ [s] :=
    Path.segments_ofSegments (by simp) fun u hu => (hnames u hu).2
  have hisName : ∀ u ∈ segments (Path.ofSegments (xs ++ [s])), IsName u := by
    rw [hsegs]
    exact fun u hu => (hnames u hu).1
  have hplace : ∀ u ∈ base, Disk.Nameable u := Disk.nameable_of_rooted hroot
  have hall : ∀ u ∈ base ++ xs, Disk.Nameable u := by
    intro u hu
    exact (List.mem_append.1 hu).elim (hplace u) fun hu => hnames u (List.mem_append_left _ hu)
  have hjoin : Path.join (Disk.pathOf base) (Path.ofSegments (xs ++ [s])) =
      Disk.pathOf (base ++ xs ++ [s]) := by
    rw [Disk.join_pathOf hbase hplace (by simp) (Path.named_of_isName hisName).isAbsolute,
      List.append_assoc]
  have hne : base ++ xs ≠ [] := by simp [hbase]
  apply writeAtomically_of_no_room content hroot hisName _ hsegs hpass
  · rw [hjoin, Disk.parent_pathOf hne hall (hnames s (by simp)), Disk.absolute_pathOf,
      Disk.utf8ByteSize_pathOf hne]
    exact hroom
  · rw [hjoin]
    exact Disk.refusal?_pathOf (by simp) hnul hsize

end NoRoom

/-! ### Every attempt -/

section Outcome

variable {d : Disk} {root p : String} {base : Location}

/-- **Writing a file ends in one of three ways.** -/
theorem attempted_of_writeAtomically {content : ByteArray} {r : Except Fault Unit} {d' : Disk}
    (hroot : d.Rooted root base) (hplaced : d.WellPlaced) (hp : Named p)
    (h : (writeAtomically (Path.join root p) content).runOn d = (r, d')) :
    Attempted d root base p content r d' := by
  obtain ⟨xs, s, hsegs, hs⟩ := Path.exists_segments_join root hp
  have hleads := hroot.leads.join hp
  cases r with
  | ok _ =>
    obtain ⟨hloc, hfile⟩ := placed_of_writeAtomically hleads hsegs hs h
    exact .written (hfile.clear (Path.segments_ne_nil p)) (hfile.written hloc)
  | error f =>
    obtain ⟨e, rfl⟩ := failsByFile_writeAtomically _ content d f d' h
    have hprepared := prepared_of_writeAtomically hleads hsegs hs h
    by_cases hclear : Clear d.tree base (segments p)
    · refine .refused e hclear ?_ hprepared
      intro hfits
      obtain ⟨d'', hok⟩ :=
        exists_writeAtomically content hroot hplaced hfits.isName hfits.takes hclear
      rw [h] at hok
      cases hok
    · exact .blocked e hclear (hprepared.same_of_not_clear hclear)

/-- A generated file is left as it is, or it is written whatever was there. -/
theorem runOn_writeGenerated (path text : String) (overwrite : Bool) (d : Disk) :
    (writeGenerated path text overwrite).runOn d =
      if d.exists? path = true ∧ overwrite = false then (.ok .skipped, d)
      else
        (((writeAtomically path text.toUTF8).runOn d).1.map fun _ =>
            if d.exists? path then .overwritten else .created,
          ((writeAtomically path text.toUTF8).runOn d).2) := by
  rw [writeGenerated, runOn_bind, runOn_ask]
  simp only [Bool.and_eq_true, Bool.not_eq_true']
  split
  · rfl
  · rw [runOn_bind]
    rcases (writeAtomically path text.toUTF8).runOn d with ⟨f | _, d'⟩
    · rfl
    · rfl

/-- A file that is written is not reported as skipped. -/
theorem map_ne_skipped (r : Except Fault Unit) (there : Bool) :
    (r.map fun _ => if there then WriteOutcome.overwritten else .created) ≠ .ok .skipped := by
  cases r with
  | error f => exact nofun
  | ok _ => cases there <;> exact nofun

/-- **What becomes of a file**, for every disk and every path of names below a root: each attempt
ends in one of three ways, a path exists as the disk says, and a generated file is skipped when it
exists and is not to be replaced.  Otherwise it is attempted, and a success says whether it
existed. -/
theorem outcome_of_writing (hroot : d.Rooted root base) (hplaced : d.WellPlaced) (hp : Named p) :
    (∀ content, ∃ r d', (writeAtomically (Path.join root p) content).runOn d = (r, d') ∧
      Attempted d root base p content r d') ∧
    (d.exists? (Path.join root p) = true ↔
      (Disk.refusal? (Path.join root p) = none ∧ ∀ s ∈ segments p, IsName s) ∧
        d.tree.kindAt? (base ++ segments p) ≠ none) ∧
    ∀ text overwrite,
      ((writeGenerated (Path.join root p) text overwrite).runOn d = (.ok .skipped, d) ↔
        d.exists? (Path.join root p) = true ∧ overwrite = false) ∧
      (¬ (d.exists? (Path.join root p) = true ∧ overwrite = false) →
        ∃ r d', (writeAtomically (Path.join root p) text.toUTF8).runOn d = (r, d') ∧
          (writeGenerated (Path.join root p) text overwrite).runOn d =
            (r.map fun _ => if d.exists? (Path.join root p) then .overwritten else .created, d')) := by
  refine ⟨?_, hroot.exists?_join_iff hp, ?_⟩
  · intro content
    rcases hrun : (writeAtomically (Path.join root p) content).runOn d with ⟨r, d'⟩
    exact ⟨r, d', rfl, attempted_of_writeAtomically hroot hplaced hp hrun⟩
  · intro text overwrite
    rw [runOn_writeGenerated]
    rcases (writeAtomically (Path.join root p) text.toUTF8).runOn d with ⟨r, d'⟩
    by_cases hskip : d.exists? (Path.join root p) = true ∧ overwrite = false
    · rw [if_pos hskip]
      exact ⟨iff_of_true rfl hskip, fun hnot => absurd hskip hnot⟩
    · rw [if_neg hskip]
      refine ⟨iff_of_false ?_ hskip, fun _ => ⟨r, d', rfl, rfl⟩⟩
      exact fun h => map_ne_skipped _ _ (congrArg Prod.fst h)

/-- A workspace with one file. -/
def oneFile : Disk where
  tree := .folder [("ws", .folder [("notes", .file "old".toUTF8)])]
  workDir := ["ws"]

/-- Below the file nothing is written, beside it a directory is made for what is, and the file itself
is kept. -/
theorem outcome_of_writing_oneFile :
    oneFile.Rooted "/ws" ["ws"] ∧ oneFile.WellPlaced ∧
      (∃ e d', (writeAtomically "/ws/notes/a" "new".toUTF8).runOn oneFile = (.error (.file e), d') ∧
        Same oneFile d') ∧
      (∃ d', (writeAtomically "/ws/docs/a" "new".toUTF8).runOn oneFile = (.ok (), d') ∧
        Written "/ws/docs/a" ["ws", "docs", "a"] "new".toUTF8 oneFile d') ∧
      (writeGenerated "/ws/notes" "new" false).runOn oneFile = (.ok .skipped, oneFile) := by
  have hnames : ∀ s ∈ ["ws"], Disk.Nameable s := by decide +kernel
  have hplaced : oneFile.WellPlaced := Disk.rooted_pathOf hnames rfl
  have hpath : Disk.pathOf ["ws"] = "/ws" := by decide +kernel
  have hroot : oneFile.Rooted "/ws" ["ws"] := hpath ▸ hplaced
  have hbelow : segments "notes/a" = ["notes", "a"] := by decide +kernel
  have hbeside : segments "docs/a" = ["docs", "a"] := by decide +kernel
  refine ⟨hroot, hplaced, ?_, ?_, ?_⟩
  · have hnamed : Named "notes/a" := Path.named_of_isName (by decide +kernel)
    have hfile : ¬ Clear oneFile.tree ["ws"] (segments "notes/a") := by
      rw [hbelow]
      exact fun h => h.above ["notes"] (List.prefix_refl _) _ rfl
    obtain ⟨r, d', hrun, hattempt⟩ := (outcome_of_writing hroot hplaced hnamed).1 "new".toUTF8
    have hjoin : Path.join "/ws" "notes/a" = "/ws/notes/a" := by decide +kernel
    rw [hjoin] at hrun
    cases hattempt with
    | written hclear _ => exact absurd hclear hfile
    | blocked e _ hsame => exact ⟨e, d', hrun, hsame⟩
    | refused _ hclear _ _ => exact absurd hclear hfile
  · have hnamed : Named "docs/a" := Path.named_of_isName (by decide +kernel)
    have hfits : oneFile.Fits "/ws" "docs/a" := by decide +kernel
    have hclear : Clear oneFile.tree ["ws"] (segments "docs/a") := by
      rw [hbeside]
      exact .of_vacant rfl rfl
    obtain ⟨r, d', hrun, hattempt⟩ := (outcome_of_writing hroot hplaced hnamed).1 "new".toUTF8
    have hjoin : Path.join "/ws" "docs/a" = "/ws/docs/a" := by decide +kernel
    rw [hjoin] at hrun
    cases hattempt with
    | written _ hwritten =>
      rw [hjoin, hbeside] at hwritten
      exact ⟨d', hrun, hwritten⟩
    | blocked _ hblocked _ => exact absurd hclear hblocked
    | refused _ _ hunfit _ => exact absurd hfits hunfit
  · have hnamed : Named "notes" := Path.named_of_isName (by decide +kernel)
    have hjoin : Path.join "/ws" "notes" = "/ws/notes" := by decide +kernel
    have hskip := ((outcome_of_writing hroot hplaced hnamed).2.2 "new" false).1
    rw [hjoin] at hskip
    exact hskip.2 ⟨by decide +kernel, rfl⟩

/-- An empty workspace. -/
def emptyWorkspace : Disk where
  tree := .folder [("tmp", .folder [("workspace0", .folder [])])]
  workDir := ["tmp", "workspace0"]

/-- A name that is not too long. -/
def longName : String := String.ofList (List.replicate 193 'd')

/-- A path that is not too long, in directories of such names. -/
def deepPath : String := Path.ofSegments (List.replicate 21 longName ++ ["x"])

theorem longName_spec :
    Disk.Nameable longName ∧ '\x00' ∉ longName.toList ∧ longName.utf8ByteSize = 193 := by
  have hother (c : Char) (hc : c ≠ 'd') : c ∉ longName.toList := by
    have hlist : longName.toList = List.replicate 193 'd' := String.toList_ofList
    exact fun hmem => hc (List.eq_of_mem_replicate (hlist ▸ hmem))
  have hslash := hother '/' (by decide)
  have hnul := hother '\x00' (by decide)
  exact ⟨⟨by decide +kernel, hslash⟩, hnul, by decide +kernel⟩

theorem mem_deepPath {s : String} (h : s ∈ List.replicate 21 longName ++ ["x"]) :
    Disk.Nameable s ∧ '\x00' ∉ s.toList := by
  rcases List.mem_append.1 h with h | h
  · rw [List.eq_of_mem_replicate h]
    exact ⟨longName_spec.1, longName_spec.2.1⟩
  · rw [List.mem_singleton.1 h]
    decide +kernel

/-- Nothing is in the way of a file and no name on its path is too long, yet it is not written, and
directories that were made for it stay. -/
theorem not_same_of_deepPath :
    emptyWorkspace.Rooted "/tmp/workspace0" ["tmp", "workspace0"] ∧ emptyWorkspace.WellPlaced ∧
      (∀ s ∈ segments deepPath, IsName s) ∧
      Clear emptyWorkspace.tree ["tmp", "workspace0"] (segments deepPath) ∧
      ∃ d', (writeAtomically (Path.join "/tmp/workspace0" deepPath) "t".toUTF8).runOn
          emptyWorkspace = (.error (.file .invalidFilename), d') ∧ ¬ Same emptyWorkspace d' := by
  have hbase : ∀ s ∈ ["tmp", "workspace0"], Disk.Nameable s ∧ '\x00' ∉ s.toList := by
    decide +kernel
  have hpath : Disk.pathOf ["tmp", "workspace0"] = "/tmp/workspace0" := by decide +kernel
  have htop : emptyWorkspace.Rooted (Disk.pathOf ["tmp", "workspace0"]) ["tmp", "workspace0"] :=
    Disk.rooted_pathOf (fun s hs => (hbase s hs).1) rfl
  have hsegs : segments deepPath = List.replicate 21 longName ++ ["x"] :=
    Path.segments_ofSegments (by simp) fun s hs => (mem_deepPath hs).1.2
  have hclear : Clear emptyWorkspace.tree ["tmp", "workspace0"] (segments deepPath) := by
    rw [hsegs, List.replicate_succ, List.cons_append]
    exact .of_vacant rfl rfl
  have hpass := hclear.above
  rw [hsegs, List.dropLast_concat] at hpass
  have hbytes : Path.bytes (["tmp", "workspace0"] ++ List.replicate 21 longName) = 4089 := by
    rw [Path.bytes_append, Path.bytes_replicate, longName_spec.2.2]
    decide +kernel
  obtain ⟨d', hrun, hdir⟩ := writeAtomically_of_long_names "t".toUTF8 htop (by decide)
    (fun s hs => (mem_deepPath hs).1)
    (by
      intro s hs
      rw [List.append_assoc] at hs
      exact (List.mem_append.1 hs).elim (fun h => (hbase s h).2) fun h => (mem_deepPath h).2)
    (by rw [Path.bytes_append, hbytes]; decide +kernel) (by rw [hbytes]; decide) hpass
  refine ⟨hpath ▸ htop, htop, ?_, hclear, d', hpath ▸ hrun, ?_⟩
  · rw [hsegs]
    exact fun s hs => (mem_deepPath hs).1.1
  · intro hsame
    rw [hsame.kinds] at hdir
    cases hdir

end Outcome

end DiskM

end WorkspaceTemplates

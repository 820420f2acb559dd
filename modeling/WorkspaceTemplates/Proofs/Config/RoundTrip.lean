/-
  WorkspaceTemplates/Proofs/Config/RoundTrip.lean
  ===============================================
  **Saving a configuration and loading it again.**

  A configuration is written setting by setting, and each setting is read on its own:
  reading what was written for one makes that setting agree with the configuration, and
  leaves the others as they were (`read_of_holds`).  The reader starts from the standard
  configuration.  So it gives back what was saved, and settings that have their standard
  values need not be there, down to a document or a file that is left out altogether
  (`load_save_without`).
-/
import WorkspaceTemplates.Config.Reader
import WorkspaceTemplates.Proofs.Context.SaveLoad
import WorkspaceTemplates.Proofs.Files.Location
import WorkspaceTemplates.Proofs.Yaml.Printed

namespace WorkspaceTemplates.Config

open Yaml (Document Node ReadsBack)

/-! ### Settings -/

/-- The settings of a configuration, by their place at the top of a document. -/
inductive Setting where
  | version
  | templatesDir
  | strict
  | overwrite
  | rules
deriving DecidableEq, Repr

namespace Setting

/-- All settings, in the order in which they are written. -/
def all : List Setting := [.version, .templatesDir, .strict, .overwrite, .rules]

/-- The key of a setting. -/
def key : Setting → String
  | .version => "version"
  | .templatesDir => "templates_dir"
  | .strict => "strict"
  | .overwrite => "overwrite"
  | .rules => "rules"

/-- What is written for a setting, if anything is. -/
def tree? (c : Config) : Setting → Option Yaml.Tree
  | .version => some (.word c.version.toNat.repr)
  | .templatesDir => c.templatesDir?.map .text
  | .strict => some (.word (Value.boolText c.strict))
  | .overwrite => some (.word (Value.boolText c.overwrite))
  | .rules => some (.mapping
      (if c.levels.isEmpty then [] else [("levels", .sequence (c.levels.map .text))]))

/-- The entry that is written for a setting, if anything is. -/
def entry? (c : Config) (s : Setting) : Option (String × Yaml.Tree) :=
  (s.tree? c).map (s.key, ·)

/-- Two configurations have the same value for a setting. -/
def Agrees (c c' : Config) : Setting → Prop
  | .version => c.version = c'.version
  | .templatesDir => c.templatesDir? = c'.templatesDir?
  | .strict => c.strict = c'.strict
  | .overwrite => c.overwrite = c'.overwrite
  | .rules => c.levels = c'.levels

/-- A configuration with the value that another one has for a setting. -/
def copy (c r : Config) : Setting → Config
  | .version => { r with version := c.version }
  | .templatesDir => { r with templatesDir? := c.templatesDir? }
  | .strict => { r with strict := c.strict }
  | .overwrite => { r with overwrite := c.overwrite }
  | .rules => { r with levels := c.levels }

instance (c c' : Config) (s : Setting) : Decidable (s.Agrees c c') := by
  cases s <;> exact inferInstanceAs (Decidable (_ = _))

section Agreement

variable {c r : Config}

theorem mem_all (s : Setting) : s ∈ all := by
  cases s <;> decide

theorem key_injective : Function.Injective key := by
  intro s t
  cases s <;> cases t <;> decide

theorem agrees_copy (s : Setting) : s.Agrees c (s.copy c r) := by
  cases s <;> rfl

theorem Agrees.copy {s : Setting} (h : s.Agrees c r) (t : Setting) : s.Agrees c (t.copy c r) := by
  cases t <;> cases s <;> first | exact h | rfl

theorem Agrees.copy_of_ne {s t : Setting} {c' : Config} (h : s.Agrees c' r) (hne : s ≠ t) :
    s.Agrees c' (t.copy c r) := by
  cases t <;> cases s <;> first | exact h | exact absurd rfl hne

theorem Agrees.trans {s : Setting} {c' : Config} (h : s.Agrees c c') (h' : s.Agrees c' r) :
    s.Agrees c r := by
  cases s <;> exact Eq.trans h h'

theorem agrees_refl (s : Setting) (c : Config) : s.Agrees c c := by
  cases s <;> rfl

/-- Configurations that agree in every setting are the same. -/
theorem eq_of_agrees (h : ∀ s : Setting, s.Agrees c r) : r = c := by
  obtain ⟨version, dir, strict, overwrite, levels⟩ := c
  obtain ⟨version', dir', strict', overwrite', levels'⟩ := r
  have hversion : version = version' := h .version
  have hdir : dir = dir' := h .templatesDir
  have hstrict : strict = strict' := h .strict
  have hoverwrite : overwrite = overwrite' := h .overwrite
  have hlevels : levels = levels' := h .rules
  subst hversion hdir hstrict hoverwrite hlevels
  rfl

/-- Only a setting that is the standard one is not written. -/
theorem agrees_standard_of_tree?_eq_none {s : Setting} (h : s.tree? c = none) :
    s.Agrees c standard := by
  cases s with
  | templatesDir => exact Option.map_eq_none_iff.1 h
  | _ => cases h

end Agreement

end Setting

theorem toTrees_eq (c : Config) : c.toTrees = Setting.all.filterMap (Setting.entry? c) := by
  cases hdir : c.templatesDir? <;> simp [toTrees, Setting.all, Setting.entry?, Setting.tree?,
    Setting.key, hdir]

/-- What is written for a configuration, some settings left out. -/
def without (c : Config) (omitted : List Setting) : List (String × Yaml.Tree) :=
  c.toTrees.filter fun e => e.1 ∉ omitted.map Setting.key

theorem without_eq (c : Config) (omitted : List Setting) :
    c.without omitted =
      (Setting.all.filter fun s => s ∉ omitted).filterMap (Setting.entry? c) := by
  rw [without, toTrees_eq, List.filter_filterMap, List.filterMap_filter]
  apply List.filterMap_congr
  intro s _
  have hmem : s.key ∈ omitted.map Setting.key ↔ s ∈ omitted :=
    List.mem_map_of_injective Setting.key_injective
  by_cases hs : s ∈ omitted
  · cases htree : s.tree? c <;> simp [Setting.entry?, htree, hs, hmem, -List.mem_map]
  · cases htree : s.tree? c <;> simp [Setting.entry?, htree, hs, hmem, -List.mem_map]

theorem without_nil (c : Config) : c.without [] = c.toTrees := by
  simp [without]

/-! ### Reading what was written -/

section Reading

variable {d : Document} {c r : Config} {used : Nat} {n : Node}

theorem versionOf?_repr (anchor : Option Nat) (v : UInt32) :
    versionOf? (.scalar anchor none .plain v.toNat.repr) = some v := by
  have hsize : (v.toNat : Int) < UInt32.size := Int.ofNat_lt.2 v.toNat_lt
  rw [versionOf?, if_pos (by rw [Yaml.startsWith_repr]; rfl), Yaml.integerOfText?_repr,
    Option.bind_some, if_pos hsize, Int.toNat_natCast, UInt32.ofNat_toNat]

theorem followed_versionOf? {v : UInt32} (h : n.holds (.word v.toNat.repr) = true) :
    followed d versionOf? n used = some (v, used) := by
  obtain ⟨anchor, rfl⟩ := Node.eq_of_holds_word h
  show (versionOf? _).map _ = _
  rw [versionOf?_repr]
  rfl

theorem followed_boolOf? {b : Bool} (h : n.holds (.word (Value.boolText b)) = true) :
    followed d boolOf? n used = some (b, used) := by
  obtain ⟨anchor, rfl⟩ := Node.eq_of_holds_word h
  show (boolOf? _).map _ = _
  rw [boolOf?, Yaml.boolOfText?_boolText]
  rfl

theorem followed_optionalTextOf? {dir : String} (h : n.holds (.text dir) = true) :
    followed d optionalTextOf? n used = some (some dir, used) := by
  obtain ⟨anchor, style, rfl, hplain⟩ := Node.eq_of_holds_text h
  cases style with
  | plain =>
    have hread : optionalTextOf? (.scalar anchor none .plain dir) = some (some dir) := by
      simp [optionalTextOf?, Yaml.not_null_of_readsAsText (hplain rfl)]
    show (optionalTextOf? _).map _ = _
    rw [hread]
    rfl
  | _ => rfl

theorem followed_textOf? {t : String} (h : n.holds (.text t) = true) :
    followed d textOf? n used = some (t, used) := by
  obtain ⟨anchor, style, rfl, -⟩ := Node.eq_of_holds_text h
  rfl

theorem readTexts_of_holds {ts : List String} {items : List Node}
    (h : Yaml.itemsHold items (ts.map .text) = true) :
    readTexts d items used = some (ts, used) := by
  induction ts generalizing items with
  | nil =>
    rw [Yaml.eq_nil_of_itemsHold h]
    rfl
  | cons t ts ih =>
    obtain ⟨m, rest, rfl, hm, hrest⟩ := Yaml.exists_of_itemsHold_cons h
    rw [readTexts, followed_textOf? hm, Option.bind_some]
    simp only [ih hrest, Option.map_some]

theorem readRecord_rules_of_holds (hlevels : r.levels = [])
    (h : n.holds (.mapping
      (if c.levels.isEmpty then [] else [("levels", .sequence (c.levels.map .text))])) = true) :
    readRecord d (rulesField d) n used r = some ({ r with levels := c.levels }, used) := by
  obtain ⟨anchor, entries, rfl, hentries⟩ := Node.eq_of_holds_mapping h
  show readFields d (rulesField d) [] entries used r = _
  by_cases hempty : c.levels = []
  · rw [hempty, List.isEmpty_nil, if_pos rfl] at hentries
    rw [Yaml.eq_nil_of_entriesHold hentries, hempty, ← hlevels]
    rfl
  · rw [if_neg (by simpa using hempty)] at hentries
    obtain ⟨k, m, rest, rfl, hk, hm, hrest⟩ := Yaml.exists_of_entriesHold_cons hentries
    obtain ⟨_, items, rfl, hitems⟩ := Node.eq_of_holds_sequence hm
    rw [Yaml.eq_nil_of_entriesHold hrest, readFields, followed_textOf? hk, Option.bind_some]
    show ((readTexts d items used).map _).bind _ = _
    rw [readTexts_of_holds hitems]
    rfl

/-- What was written for a setting is read into that setting, and into no other one. -/
theorem read_of_holds (d : Document) (used : Nat) (s : Setting) {t : Yaml.Tree}
    (ht : s.tree? c = some t) (hn : n.holds t = true) (hfresh : s.Agrees standard r) :
    ∃ read, field d s.key = some read ∧ read n used r = some (s.copy c r, used) := by
  cases s with
  | version =>
    cases ht
    refine ⟨_, rfl, ?_⟩
    rw [scalarField, followed_versionOf? hn]
    rfl
  | templatesDir =>
    obtain ⟨dir, hdir, rfl⟩ := Option.map_eq_some_iff.1 ht
    refine ⟨_, rfl, ?_⟩
    rw [scalarField, followed_optionalTextOf? hn, ← hdir]
    rfl
  | strict =>
    cases ht
    refine ⟨_, rfl, ?_⟩
    rw [scalarField, followed_boolOf? hn]
    rfl
  | overwrite =>
    cases ht
    refine ⟨_, rfl, ?_⟩
    rw [scalarField, followed_boolOf? hn]
    rfl
  | rules =>
    cases ht
    exact ⟨_, rfl, readRecord_rules_of_holds hfresh.symm hn⟩

/-- What was written for some settings is read into them, when nothing has been read for them
before. -/
theorem readFields_of_holds (d : Document) (used : Nat) {fs : List Setting} (hnodup : fs.Nodup)
    {seen : List String} (hseen : ∀ s ∈ fs, s.key ∉ seen)
    (hfresh : ∀ s ∈ fs, s.Agrees standard r) {entries : List (Node × Node)}
    (hholds : Yaml.entriesHold entries (fs.filterMap (Setting.entry? c)) = true) :
    ∃ r', readFields d (field d) seen entries used r = some (r', used) ∧
      ∀ s : Setting, s ∈ fs ∨ s.Agrees c r → s.Agrees c r' := by
  -- by induction on the settings: what was read for one makes it agree, and it stays so
  induction fs generalizing seen entries r with
  | nil =>
    rw [Yaml.eq_nil_of_entriesHold hholds, readFields]
    exact ⟨r, rfl, fun s hs => hs.resolve_left List.not_mem_nil⟩
  | cons s fs ih =>
    obtain ⟨hs, hnodup⟩ := List.nodup_cons.1 hnodup
    rw [List.forall_mem_cons] at hseen hfresh
    cases htree : s.tree? c with
    | none =>
      rw [List.filterMap_cons_none (by rw [Setting.entry?, htree]; rfl)] at hholds
      obtain ⟨r', hread, hagrees⟩ := ih hnodup hseen.2 hfresh.2 hholds
      refine ⟨r', hread, fun u hu => hagrees u ?_⟩
      rcases hu with hu | hu
      · rcases List.mem_cons.1 hu with rfl | hu
        · exact .inr ((Setting.agrees_standard_of_tree?_eq_none htree).trans hfresh.1)
        · exact .inl hu
      · exact .inr hu
    | some t =>
      rw [List.filterMap_cons_some (by rw [Setting.entry?, htree]; rfl)] at hholds
      obtain ⟨k, n, rest, rfl, hk, hn, hrest⟩ := Yaml.exists_of_entriesHold_cons hholds
      obtain ⟨read, hfield, hread⟩ := read_of_holds d used s htree hn hfresh.1
      have hne : ∀ u ∈ fs, u ≠ s := fun u hu => ne_of_mem_of_not_mem hu hs
      have hseen' : ∀ u ∈ fs, u.key ∉ s.key :: seen := by
        intro u hu
        rw [List.mem_cons, not_or]
        exact ⟨Setting.key_injective.ne (hne u hu), hseen.2 u hu⟩
      have hfresh' : ∀ u ∈ fs, u.Agrees standard (s.copy c r) :=
        fun u hu => (hfresh.2 u hu).copy_of_ne (hne u hu)
      obtain ⟨r', hreads, hagrees⟩ := ih hnodup hseen' hfresh' hrest
      refine ⟨r', ?_, fun u hu => hagrees u ?_⟩
      · rw [readFields, followed_textOf? hk, Option.bind_some]
        simp only [hfield, List.contains_iff_mem, if_neg hseen.1, hread, Option.bind_some, hreads]
      · rcases hu with hu | hu
        · rcases List.mem_cons.1 hu with rfl | hu
          · exact .inr (u.agrees_copy)
          · exact .inl hu
        · exact .inr (hu.copy s)

/-- A document without some settings that are the standard ones is read as the configuration. -/
theorem ofYamlText_of_readsAs {text : String} {omitted : List Setting}
    (homitted : ∀ s ∈ omitted, s.Agrees c standard)
    (hreads : Yaml.ReadsAs text (c.without omitted)) : ofYamlText text = .ok c := by
  obtain ⟨d, n, hparse, hroot, hholds⟩ := Yaml.readsAs_iff.1 hreads
  obtain ⟨anchor, entries, rfl, hentries⟩ := Node.eq_of_holds_mapping hholds
  rw [without_eq] at hentries
  have hall : Setting.all.Nodup := by decide
  obtain ⟨r, hread, hagrees⟩ := readFields_of_holds d 0 (hall.filter _)
    (fun s _ => List.not_mem_nil) (fun s _ => s.agrees_refl standard) hentries
  have hr : r = c := by
    refine Setting.eq_of_agrees fun s => hagrees s ?_
    by_cases hs : s ∈ omitted
    · exact .inr (homitted s hs)
    · exact .inl (List.mem_filter.2 ⟨s.mem_all, by simpa using hs⟩)
  have hdocument : ofDocument? d = some c := by
    rw [ofDocument?, hroot]
    show (readFields d (field d) [] entries 0 standard).map _ = _
    rw [hread, hr]
    rfl
  rw [ofYamlText, hparse, Option.bind_some, hdocument]

end Reading

/-! ### Saving and loading -/

section Loading

variable {c : Config} {root : String} {disk d d' : Disk}

theorem load_of_readsBack {omitted : List Setting}
    (homitted : ∀ s ∈ omitted, s.Agrees c standard) (hreads : ReadsBack (c.without omitted))
    (htext : disk.readText (Path.join root Layout.config) =
      .ok (Yaml.documentText (c.without omitted))) : load disk root = .ok c := by
  rw [load, Disk.exists?_of_readText htext, htext]
  simp only [Yaml.isAllBlank_documentText]
  exact ofYamlText_of_readsAs homitted hreads

theorem load_of_save (hreads : ReadsBack c.toTrees) (h : (c.save root).runOn d = (.ok (), d')) :
    load d' root = .ok c := by
  rw [← c.without_nil] at hreads
  refine load_of_readsBack (by simp) hreads ?_
  rw [c.without_nil]
  exact DiskM.readText_of_writeAtomically h

/-- In the directory of a root the configuration is saved, unless a directory has its name. -/
theorem exists_save (c : Config) {base : Location} (hroot : d.Rooted root base)
    (hplaced : d.WellPlaced) (htakes : d.Takes (Path.join root Layout.config))
    (hfree : d.tree.kindAt? (base ++ [Layout.config]) ≠ some .dir) :
    ∃ d', (c.save root).runOn d = (.ok (), d') := by
  have hsegs : Path.segments Layout.config = [Layout.config] := by decide +kernel
  have hnames : ∀ s ∈ Path.segments Layout.config, Path.IsName s := by decide +kernel
  refine DiskM.exists_writeAtomically _ hroot hplaced hnames htakes ?_
  rw [hsegs]
  refine ⟨fun xs hxs content => ?_, hfree⟩
  obtain rfl : xs = [] := List.prefix_nil.1 hxs
  rw [List.append_nil, hroot.dir]
  exact nofun

theorem load_of_nothing (hstandard : ∀ s : Setting, s.Agrees c standard)
    (h : disk.exists? (Path.join root Layout.config) = false ∨
      ∃ text, disk.readText (Path.join root Layout.config) = .ok text ∧
        Text.isAllBlank text = true) : load disk root = .ok c := by
  obtain rfl : standard = c := Setting.eq_of_agrees hstandard
  rw [load]
  rcases h with habsent | ⟨text, htext, hblank⟩
  · rw [habsent]
    rfl
  · rw [Disk.exists?_of_readText htext, htext]
    simp only [hblank]
    rfl

/-- **What was saved is loaded again, and what is standard may be left out.**  The reader of
documents is taken to find in a printed text what was printed.  A configuration that was saved is
loaded from the same root, and in the directory of a root it is saved.  Settings that have
their standard values may be left out of the document; when all have, the document may be
blank, and the file may be absent. -/
theorem load_save_without (c : Config) (root : String) :
    (ReadsBack c.toTrees →
      (∀ d d', (c.save root).runOn d = (.ok (), d') → load d' root = .ok c) ∧
      ∀ d base, d.Rooted root base → d.WellPlaced → d.Takes (Path.join root Layout.config) →
        d.tree.kindAt? (base ++ [Layout.config]) ≠ some .dir →
          ∃ d', (c.save root).runOn d = (.ok (), d') ∧ load d' root = .ok c) ∧
    (∀ omitted, (∀ s ∈ omitted, s.Agrees c standard) → ReadsBack (c.without omitted) →
      ∀ disk, disk.readText (Path.join root Layout.config) =
          .ok (Yaml.documentText (c.without omitted)) →
        load disk root = .ok c) ∧
    ((∀ s : Setting, s.Agrees c standard) →
      ∀ disk, (disk.exists? (Path.join root Layout.config) = false ∨
          ∃ text, disk.readText (Path.join root Layout.config) = .ok text ∧
            Text.isAllBlank text = true) →
        load disk root = .ok c) := by
  refine ⟨fun hreads => ⟨fun d d' => load_of_save hreads, ?_⟩,
    fun omitted homitted hreads disk => load_of_readsBack homitted hreads,
    fun hstandard disk => load_of_nothing hstandard⟩
  intro d base hroot hplaced htakes hfree
  obtain ⟨d', hsave⟩ := exists_save c hroot hplaced htakes hfree
  exact ⟨d', hsave, load_of_save hreads hsave⟩

/-- A configuration whose texts need quotes. -/
def quoted : Config where
  version := currentVersion
  templatesDir? := some "my: templates"
  strict := true
  overwrite := true
  levels := ["5", "null", "core"]

theorem toTrees_quoted :
    quoted.toTrees = [("version", .word "1"), ("templates_dir", .text "my: templates"),
      ("strict", .word "true"), ("overwrite", .word "true"),
      ("rules", .mapping [("levels", .sequence [.text "5", .text "null", .text "core"])])] := by
  have hversion : quoted.version.toNat.repr = "1" := by decide
  rw [toTrees, hversion]
  rfl

theorem without_quoted :
    quoted.without [.version, .overwrite] = [("templates_dir", .text "my: templates"),
      ("strict", .word "true"),
      ("rules", .mapping [("levels", .sequence [.text "5", .text "null", .text "core"])])] := by
  rw [without, toTrees_quoted]
  rfl

theorem readsBack_quoted :
    ReadsBack quoted.toTrees ∧ ReadsBack (quoted.without [.version, .overwrite]) := by
  rw [toTrees_quoted, without_quoted]
  simp only [ReadsBack, Yaml.documentText, Yaml.entryBlocks, Yaml.afterKey, Yaml.afterMark,
    Yaml.itemBlocks]
  constructor <;> decide +kernel

/-- A workspace without files. -/
def bareWorkspace : Disk where
  tree := .folder [("ws", .folder [])]
  workDir := ["ws"]

/-- It is saved and loaded, also from a document without two of its settings, and without a file the
configuration is the standard one. -/
theorem load_save_without_quoted :
    (∃ d, (quoted.save "/ws").runOn bareWorkspace = (.ok (), d) ∧ load d "/ws" = .ok quoted) ∧
    (∃ d, d.readText "/ws/scaffold.yaml" =
        .ok (Yaml.documentText (quoted.without [.version, .overwrite])) ∧
      load d "/ws" = .ok quoted) ∧
    load bareWorkspace "/ws" = .ok standard := by
  refine ⟨?_, ?_, ?_⟩
  · have hnames : ∀ s ∈ ["ws"], Disk.Nameable s := by decide +kernel
    have hplaced : bareWorkspace.WellPlaced := Disk.rooted_pathOf hnames rfl
    have hwork : Disk.pathOf ["ws"] = "/ws" := by decide +kernel
    have hroot : bareWorkspace.Rooted "/ws" ["ws"] := hwork ▸ hplaced
    have hvacant : bareWorkspace.tree.kindAt? (["ws"] ++ [Layout.config]) = none := rfl
    refine ((load_save_without quoted "/ws").1 readsBack_quoted.1).2 _ _ hroot hplaced
      (by decide +kernel) ?_
    rw [hvacant]
    exact nofun
  · have hok : ((DiskM.writeAtomically "/ws/scaffold.yaml"
        (Yaml.documentText (quoted.without [.version, .overwrite])).toUTF8).runOn
          bareWorkspace).1 = .ok () := by decide +kernel
    obtain ⟨d, hwrite⟩ := Stateful.exists_runOn_eq hok
    have htext := DiskM.readText_of_writeAtomically hwrite
    refine ⟨d, htext, (load_save_without quoted "/ws").2.1 _ (by decide) readsBack_quoted.2 _ ?_⟩
    have hpath : Path.join "/ws" Layout.config = "/ws/scaffold.yaml" := by decide +kernel
    rw [hpath]
    exact htext
  · refine (load_save_without standard "/ws").2.2 (fun s => s.agrees_refl standard) _ (.inl ?_)
    decide +kernel

end Loading

end WorkspaceTemplates.Config

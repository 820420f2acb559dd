/-
  WorkspaceTemplates/Proofs/Config/Levels.lean
  ============================================
  **Levels that a configuration asks for.**

  A configuration lists levels as free text.  Every entry is read once: what names a
  level forces that level, and what names none is warned about, so no entry is lost.
  The selection only asks whether a level is among the forced ones.  It therefore
  depends on the set of levels that the entries name (`levels_congr`), which none of
  the changes of `Rearranged` alters, and more entries never select less.
-/
import WorkspaceTemplates.Config
import WorkspaceTemplates.Proofs.Selection

namespace WorkspaceTemplates

/-! ### Texts that name levels -/

namespace Level

/-- The name of a level with underscores for hyphens. -/
def snakeName (l : Level) : String :=
  String.ofList (l.name.toList.map fun c => if c = '-' then '_' else c)

/-- A text names a level by its number, its name, or its name with underscores. -/
theorem ofText?_eq_some_iff {text : String} {l : Level} :
    ofText? text = some l ↔ text = l.number.repr ∨ text = l.name ∨ text = l.snakeName := by
  constructor
  · intro h
    have hspelling := List.find?_some (p := fun l : Level => l.spellings.contains text) h
    rw [List.contains_iff_mem] at hspelling
    cases l with
    | projectType =>
      have hsnake : projectType.snakeName = "project_type" := by decide +kernel
      rw [hsnake]
      simpa [spellings] using hspelling
    | core | architecture | language | framework =>
      simp only [spellings, List.mem_cons, List.not_mem_nil, or_false] at hspelling
      exact hspelling.imp_right .inl
  · rintro (rfl | rfl | rfl)
    · cases l <;> decide +kernel
    · cases l <;> decide +kernel
    · cases l <;> decide +kernel

theorem parse_eq_ok_iff {text : String} {l : Level} :
    parse text = .ok l ↔ ofText? text = some l := by
  rw [parse]
  cases ofText? text with
  | none => simp
  | some l' => simp

end Level

/-! ### Entries of a configuration -/

namespace Config

/-- The warning about an entry that names no level. -/
def unknownLevel (entry : String) : ConfigWarning :=
  ⟨.warning, "unknown rule level '" ++ entry ++ "' in rules.levels"⟩

/-- What becomes of an entry: the level that it forces, or the warning about it. -/
def reading (entry : String) : Level ⊕ ConfigWarning :=
  match Level.parse entry with
  | .ok l => .inl l
  | .error _ => .inr (unknownLevel entry)

/-- The same configuration with other entries for levels. -/
def withLevels (c : Config) (entries : List String) : Config := { c with levels := entries }

section Entries

variable (c : Config)

theorem forcedLevels_eq : c.forcedLevels = c.levels.filterMap fun t => (reading t).getLeft? := by
  apply List.filterMap_congr
  intro t ht
  rw [reading, Level.parse]
  cases Level.ofText? t <;> rfl

theorem levelWarnings_eq : c.levelWarnings = c.levels.filterMap fun t => (reading t).getRight? := by
  rw [levelWarnings]
  induction c.levels with
  | nil => rfl
  | cons t levels ih =>
    rw [List.filterMap_cons, ← ih, reading, Level.parse]
    cases hlevel : Level.ofText? t <;> simp [hlevel, unknownLevel]

/-- The warnings that are no errors are those about levels. -/
theorem filter_warnings (disk : Disk) (root : String) :
    ((c.warnings disk root).filter fun w => w.severity = .warning) = c.levelWarnings := by
  have hversion : (c.versionWarnings.filter fun w => w.severity = .warning) = [] := by
    rw [versionWarnings]
    split <;> rfl
  have hlevels : (c.levelWarnings.filter fun w => w.severity = .warning) = c.levelWarnings := by
    rw [List.filter_eq_self, levelWarnings]
    intro w hw
    obtain ⟨t, -, rfl⟩ := List.mem_map.1 hw
    rfl
  have htemplates :
      ((c.templatesWarnings disk root).filter fun w => w.severity = .warning) = [] := by
    rw [templatesWarnings]
    split
    · split <;> rfl
    · rfl
  rw [warnings, List.filter_append, List.filter_append, hversion, hlevels, htemplates,
    List.append_nil, List.nil_append]

theorem mem_forcedLevels_iff {l : Level} :
    l ∈ c.forcedLevels ↔ ∃ t ∈ c.levels, Level.parse t = .ok l := by
  simp only [forcedLevels, List.mem_filterMap, Level.parse_eq_ok_iff]

end Entries

/-! ### Changes that make no difference -/

/-- Entries that come from others by any number of changes: putting them in another order, repeating
one, writing one in another way, and putting in one that names no level; or by undoing these. -/
inductive Rearranged : List String → List String → Prop where
  | order {xs ys : List String} (h : xs.Perm ys) : Rearranged xs ys
  | again {t : String} {xs : List String} (h : t ∈ xs) : Rearranged xs (t :: xs)
  | respelled {t t' : String} {xs : List String} {l : Level} (h : Level.parse t = .ok l)
      (h' : Level.parse t' = .ok l) : Rearranged (t :: xs) (t' :: xs)
  | unknown {t : String} {xs : List String} {f : Fault} (h : Level.parse t = .error f) :
      Rearranged xs (t :: xs)
  | symm {xs ys : List String} (h : Rearranged xs ys) : Rearranged ys xs
  | trans {xs ys zs : List String} (h : Rearranged xs ys) (h' : Rearranged ys zs) :
      Rearranged xs zs

/-- The levels that the entries name are the same as before. -/
theorem Rearranged.names_iff {xs ys : List String} (h : Rearranged xs ys) (l : Level) :
    (∃ t ∈ xs, Level.parse t = .ok l) ↔ ∃ t ∈ ys, Level.parse t = .ok l := by
  induction h with
  | order h => simp only [h.mem_iff]
  | again h =>
    simp only [List.exists_mem_cons_iff]
    exact ⟨.inr, fun hor => hor.elim (fun ht => ⟨_, h, ht⟩) id⟩
  | respelled h h' =>
    simp only [List.exists_mem_cons_iff, h, h']
  | unknown h =>
    simp only [List.exists_mem_cons_iff, h, reduceCtorEq, false_or]
  | symm _ ih => exact ih.symm
  | trans _ _ ih ih' => exact ih.trans ih'

/-! ### What a configuration selects -/

/-- What a level that is not always selected takes to be so. -/
theorem exists_key_mem_levels_iff (c : Config) (ctx : Context) {l : Level} (hcore : l ≠ .core)
    (harchitecture : l ≠ .architecture) :
    ∃ key, l.gatingKey? = some key ∧
      (l ∈ Selection.levels ctx c.forcedLevels ↔
        (∃ v, ctx.get? key = some v ∧ v.isEmpty = false ∧ v.plain ≠ Selection.unknown) ∨
          ∃ t ∈ c.levels, Level.parse t = .ok l) := by
  simp only [Selection.mem_levels_iff, mem_forcedLevels_iff, ← Selection.isKnown_eq_true_iff]
  cases l with
  | core => exact absurd rfl hcore
  | architecture => exact absurd rfl harchitecture
  | projectType | language | framework => exact ⟨_, rfl, by simp [Level.gatingKey?]⟩

/-- **Entries are read as a set, and none is lost.**  Every entry forces a level or is warned about,
in the order of the entries, and a text names a level in three ways.  The selected levels are in
the order of their numbers; the first two are always among them, and any other one is if its key
is known or an entry names it.  Rearranging the entries selects the same levels, and further
entries take none away. -/
theorem levels_of_config (c : Config) (disk : Disk) (root : String) (ctx : Context) :
    c.forcedLevels = (c.levels.filterMap fun t => (reading t).getLeft?) ∧
    ((c.warnings disk root).filter fun w => w.severity = .warning) =
      (c.levels.filterMap fun t => (reading t).getRight?) ∧
    (∀ t l, Level.parse t = .ok l ↔ t = l.number.repr ∨ t = l.name ∨ t = l.snakeName) ∧
    (Selection.levels ctx c.forcedLevels).Pairwise (fun l l' => l.number < l'.number) ∧
    Level.core ∈ Selection.levels ctx c.forcedLevels ∧
    Level.architecture ∈ Selection.levels ctx c.forcedLevels ∧
    (∀ l, l ≠ Level.core → l ≠ Level.architecture → ∃ key, l.gatingKey? = some key ∧
      (l ∈ Selection.levels ctx c.forcedLevels ↔
        (∃ v, ctx.get? key = some v ∧ v.isEmpty = false ∧ v.plain ≠ Selection.unknown) ∨
          ∃ t ∈ c.levels, Level.parse t = .ok l)) ∧
    (∀ entries, Rearranged c.levels entries →
      Selection.levels ctx (c.withLevels entries).forcedLevels =
        Selection.levels ctx c.forcedLevels) ∧
    ∀ entries, c.levels ⊆ entries →
      (Selection.levels ctx c.forcedLevels).Sublist
        (Selection.levels ctx (c.withLevels entries).forcedLevels) := by
  refine ⟨c.forcedLevels_eq, (c.filter_warnings disk root).trans c.levelWarnings_eq, ?_,
    Selection.pairwise_number_levels ctx _, Selection.mem_levels_of_ungated rfl,
    Selection.mem_levels_of_ungated rfl, fun _ => c.exists_key_mem_levels_iff ctx, ?_, ?_⟩
  · intro t l
    rw [Level.parse_eq_ok_iff, Level.ofText?_eq_some_iff]
  · intro entries hentries
    apply Selection.levels_congr
    intro l
    rw [mem_forcedLevels_iff, mem_forcedLevels_iff]
    exact (hentries.names_iff l).symm
  · intro entries hentries
    apply Selection.levels_sublist_of_subset
    intro l hl
    rw [mem_forcedLevels_iff] at hl ⊢
    obtain ⟨t, ht, hlevel⟩ := hl
    exact ⟨t, hentries ht, hlevel⟩

/-- Numbers and names may be mixed, repeated, and stand among texts that name nothing. -/
example : Selection.levels .empty
    (Config.standard.withLevels ["5", "Core", "project_type", "framework"]).forcedLevels =
      [.core, .architecture, .projectType, .framework] := by
  decide +kernel

end Config

end WorkspaceTemplates

/-
  WorkspaceTemplates/Proofs/Template/Spared.lean
  ==============================================
  **Templates that are left alone.**

  A change of a disk that brings nothing but directories to the location of a path
  leaves the file at that path as it is (`content?_of_spared`).  The name of a
  template is never that of a file of a workspace, so every template in a directory
  whose path does not go back reads the same after such files have been written,
  wherever that directory is.
-/
import WorkspaceTemplates.Proofs.Files.Leads
import WorkspaceTemplates.Proofs.Generate.Plan
import WorkspaceTemplates.Template.Source

namespace WorkspaceTemplates

open WorkspaceTemplates.Path (Ordinary segments)

/-! ### Files at their paths -/

namespace Disk

/-- The bytes of the file at a path. -/
def content? (d : Disk) (path : String) : Option ByteArray :=
  match d.look path with
  | .ok (.file content) => some content
  | _ => none

/-- Nothing is new at a location but a directory where nothing was. -/
def Spared (loc : Location) (d d' : Disk) : Prop :=
  d'.tree.kindAt? loc = d.tree.kindAt? loc ∨
    (d.tree.kindAt? loc = none ∧ d'.tree.kindAt? loc = some .dir)

section Content

variable {d d' d'' : Disk} {path : String} {loc : Location} {content : ByteArray}

theorem Spared.trans (h : Spared loc d d') (hkeeps : Keeps d' d'') (h' : Spared loc d' d'') :
    Spared loc d d'' := by
  rcases h with hsame | ⟨hnone, hdir⟩
  · rw [Spared, ← hsame]
    exact h'
  · exact .inr ⟨hnone, hkeeps.dir loc hdir⟩

theorem Spared.file_iff (h : Spared loc d d') :
    d'.tree.kindAt? loc = some (.file content) ↔ d.tree.kindAt? loc = some (.file content) := by
  rcases h with hsame | ⟨hnone, hdir⟩
  · rw [hsame]
  · simp [hnone, hdir]

theorem content?_eq_some_iff :
    d.content? path = some content ↔
      ∃ loc, d.locate path = .ok loc ∧ d.tree.kindAt? loc = some (.file content) := by
  have hlook : d.content? path = some content ↔ d.look path = .ok (.file content) := by
    rw [content?]
    split
    · rename_i hlook
      simp [hlook]
    · rename_i hother
      simpa using hother content
  simp only [hlook, look_eq_ok_iff, Tree.kindAt?_eq_file_iff]

/-- A file stays as it is where nothing but directories are new. -/
theorem content?_of_spared {xs : List String} {s : String} (h : d.Leads path loc)
    (hsegs : segments path = xs ++ [s]) (hs : Path.isIdle s = false) (hkeeps : Keeps d d')
    (hspared : Spared loc d d') : d'.content? path = d.content? path := by
  apply Option.ext
  intro content
  rw [content?_eq_some_iff, content?_eq_some_iff]
  constructor
  · rintro ⟨loc', hloc, hfile⟩
    obtain rfl := (h.keeps hkeeps).eq_of_locate hloc
    rw [hspared.file_iff] at hfile
    exact ⟨loc', h.locate_of_there hsegs hs hkeeps hloc (by rw [hfile]; exact nofun), hfile⟩
  · rintro ⟨loc', hloc, hfile⟩
    obtain rfl := h.eq_of_locate hloc
    exact ⟨loc', hkeeps.locate hloc, hspared.file_iff.2 hfile⟩

end Content

end Disk

/-! ### Templates in directories -/

/-- What a directory has of a template depends on one file only. -/
theorem TemplateLayer.text?_directory (d : Disk) (dir : String) (t : Template) :
    (TemplateLayer.directory dir).text? d t =
      match d.content? (Path.join dir t.place) with
      | some content =>
        match String.fromUTF8? content with
        | some s => .ok (some s)
        | none => .error (.file .invalidData)
      | none => .ok none := by
  rcases hlook : d.look (Path.join dir t.place) with e | u
  · simp [TemplateLayer.text?, Disk.isFile, Disk.content?, hlook]
  · cases u with
    | dir es os => simp [TemplateLayer.text?, Disk.isFile, Disk.content?, Tree.isFile, hlook]
    | file content =>
      simp only [TemplateLayer.text?, Disk.isFile, Disk.content?, Disk.readText, Disk.textOf,
        Tree.isFile, hlook, if_true]
      cases String.fromUTF8? content <;> rfl

namespace Template

theorem ordinary_place (t : Template) : Ordinary t.place := by
  have hall : ∀ u ∈ all, Ordinary u.place := by decide +kernel
  exact hall t (mem_all t)

/-- No file of a workspace has the name of a template. -/
theorem getLast?_place_ne (t : Template) {names : Location} (h : names ∈ Generate.sites) :
    names.getLast? ≠ (segments t.place).getLast? := by
  have hall : ∀ u ∈ all, ∀ xs ∈ Generate.sites,
      xs.getLast? ≠ (segments u.place).getLast? := by decide +kernel
  exact hall t (mem_all t) names h

section Spared

variable {d d' : Disk} {layers : List TemplateLayer}

/-- Where the file of a template belongs: to a location with the name of the template. -/
theorem leads_place (d : Disk) {dir : String} (hplain : ".." ∉ segments dir) (t : Template) :
    ∃ place, d.Leads (Path.join dir t.place) (place ++ segments t.place) :=
  ⟨_, (Disk.leads_of_plain d hplain).join (ordinary_place t).named⟩

/-- A template in a directory whose path does not go back is read as before when nothing but
directories are new elsewhere than at the files of a workspace. -/
theorem text?_of_spared {base : Location} (hkeeps : Disk.Keeps d d')
    (hspared : ∀ loc, (∀ names ∈ Generate.sites, loc ≠ base ++ names) → Disk.Spared loc d d')
    {layer : TemplateLayer} (hplain : ∀ dir, layer = .directory dir → ".." ∉ segments dir)
    (t : Template) : layer.text? d' t = layer.text? d t := by
  cases layer with
  | builtin => rfl
  | directory dir =>
    obtain ⟨place, hleads⟩ := leads_place d (hplain dir rfl) t
    obtain ⟨xs, s, hsegs, hs⟩ := Path.exists_segments_join dir (ordinary_place t).named
    have hplace : ∀ names ∈ Generate.sites, place ++ segments t.place ≠ base ++ names := by
      intro names hnames heq
      apply getLast?_place_ne t hnames
      have hne : names ≠ [] := by
        rintro rfl
        revert hnames
        decide
      have hlast := congrArg List.getLast? heq
      rw [List.getLast?_append_of_ne_nil _ (Path.segments_ne_nil _),
        List.getLast?_append_of_ne_nil _ hne] at hlast
      exact hlast.symm
    rw [TemplateLayer.text?_directory, TemplateLayer.text?_directory,
      Disk.content?_of_spared hleads hsegs hs hkeeps (hspared _ hplace)]

theorem demand_congr {t : Template}
    (h : ∀ layer ∈ layers, layer.text? d' t = layer.text? d t) :
    t.demand d' layers = t.demand d layers := by
  have htext : t.text? d' layers = t.text? d layers := by
    induction layers with
    | nil => rfl
    | cons layer layers ih =>
      rw [List.forall_mem_cons] at h
      rw [text?, text?, h.1, ih h.2]
  rw [demand, demand, htext]

end Spared

end Template

namespace Generate

variable {d d' : Disk} {layers : List TemplateLayer} {root : String} {ctx : Context}

theorem renderAll_congr {ts : List Template}
    (h : ∀ t : Template, t.demand d' layers = t.demand d layers) :
    renderAll d' layers root ctx ts = renderAll d layers root ctx ts := by
  induction ts with
  | nil => rfl
  | cons t ts ih => rw [renderAll, renderAll, renderTemplate, renderTemplate, h, ih]

/-- A plan depends on the disk through its templates only. -/
theorem plan_congr {options : GenerateOptions}
    (h : ∀ t : Template, t.demand d' layers = t.demand d layers) :
    plan d' layers options root ctx = plan d layers options root ctx := by
  rw [plan, plan, renderAll_congr h]

end Generate

end WorkspaceTemplates

/-
  WorkspaceTemplates/Proofs/Interview/Context.lean
  ================================================
  **What every interview leaves in its context.**

  The answers of an interview become entries with distinct keys, and completing the
  context changes none of them: nothing an interview collects is null, a map, or the
  unknown technologies.  So each key of the context has either the value that was
  answered for it or, if nothing was, its default.  What is answered is a word (a text
  that is not empty and has no blanks around it), a list of words without commas, a
  list of port numbers, or a truth value.
-/
import WorkspaceTemplates.Proofs.Context.RoundTrip
import WorkspaceTemplates.Proofs.Interview.Reading
import WorkspaceTemplates.Proofs.Normal
import WorkspaceTemplates.Proofs.Text.Pieces

namespace WorkspaceTemplates

/-! ### Dictionaries made of pairs -/

namespace Dictionary

variable {α : Type} {d : Dictionary α} {ps : List (String × α)} {k : String} {v : α}

theorem get?_insertAll_of_notMem (h : k ∉ ps.map (·.1)) : (d.insertAll ps).get? k = d.get? k := by
  induction ps generalizing d with
  | nil => rfl
  | cons p ps ih =>
    rw [List.map_cons, List.mem_cons, not_or] at h
    have hrest : (d.insertAll (p :: ps)).get? k = (d.insert p.1 p.2).get? k := ih h.2
    rw [hrest, get?_insert, if_neg h.1]

theorem get?_insertAll_of_mem (hkeys : (ps.map (·.1)).Nodup) (h : (k, v) ∈ ps) :
    (d.insertAll ps).get? k = some v := by
  induction ps generalizing d with
  | nil => cases h
  | cons p ps ih =>
    rw [List.map_cons, List.nodup_cons] at hkeys
    rcases List.mem_cons.1 h with rfl | h
    · have hrest : (d.insertAll ((k, v) :: ps)).get? k = (d.insert k v).get? k :=
        get?_insertAll_of_notMem hkeys.1
      rw [hrest, get?_insert, if_pos rfl]
    · exact ih hkeys.2 h

end Dictionary

/-! ### Keys that completing a context leaves alone -/

namespace Normal

variable {ctx : Context} {defaults : Defaults} {key : String} {v : Value}

theorem get?_normalize_of_some (h : ctx.get? key = some v) (hnull : v.isNull = false)
    (hmap : v.map? = none) (htechnologies : key ≠ "technologies") :
    (normalize ctx defaults).get? key = some v := by
  have hfill : (fillAll ctx defaults).get? key = some v := by
    rw [get?_fillAll, if_neg, h]
    rw [isMissing, h]
    simp [hnull]
  have hderive : (deriveTechnologies (fillAll ctx defaults)).get? key = some v :=
    (get?_deriveTechnologies htechnologies).trans hfill
  by_cases hnetworking : key = "networking"
  · subst hnetworking
    rw [normalize, get?_networking, hderive]
    cases v with
    | ofDictionary d => cases hmap
    | _ => rfl
  · exact (get?_collapseNetworking hnetworking).trans hderive

theorem get?_normalize_of_none (h : ctx.get? key = none) (htechnologies : key ≠ "technologies")
    (hnetworking : key ≠ "networking") :
    (normalize ctx defaults).get? key = (defaults.get? key).map DefaultValue.toValue := by
  rw [get?_normalize htechnologies hnetworking, get?_fillAll, if_pos, h, Option.or_none]
  rw [isMissing, h]

end Normal

namespace Interview

variable {script : Script} {n k : Nat}

/-! ### Words -/

/-- A text that is not empty and has no blanks around it. -/
def IsWord (s : String) : Prop := s ≠ "" ∧ Text.trim s = s

instance (s : String) : Decidable (IsWord s) := inferInstanceAs (Decidable (_ ∧ _))

/-- A word that can stand in a list separated by commas. -/
def IsItem (s : String) : Prop := IsWord s ∧ ',' ∉ s.toList

theorem isWord_orDefault {standard : String} (h : IsWord standard) :
    IsWord (orDefault (script.reply n) standard) := by
  rw [orDefault]
  split
  · exact h
  · rename_i hreply
    exact ⟨by simpa using hreply, Script.trim_reply script n⟩

/-- All that a menu offers are words. -/
def Menu.IsProper (m : Menu) : Prop := (∀ c ∈ m.choices, IsWord c.2) ∧ IsWord m.fallback

instance (m : Menu) : Decidable m.IsProper := inferInstanceAs (Decidable (_ ∧ _))

theorem Menu.IsProper.choice {m : Menu} (h : m.IsProper) (reply : String) :
    IsWord (m.choice reply) := by
  rw [Menu.choice]
  split
  · rename_i i _
    cases hc : m.choices[i]? with
    | none => exact h.2
    | some c => exact h.1 c (List.mem_of_getElem? hc)
  · exact h.2

theorem Menu.IsProper.value {m : Menu} (h : m.IsProper) (reply : String) :
    IsWord (m.value reply (script.reply n)) := by
  rw [Menu.value]
  split
  · exact isWord_orDefault (by decide)
  · exact h.choice reply

theorem isProper_projectTypes : projectTypes.IsProper := by decide

theorem isProper_languages : languages.IsProper := by decide

theorem isProper_deployments : deployments.IsProper := by decide

theorem isItem_of_mem_splitList {reply s : String} (h : s ∈ splitList reply) : IsItem s := by
  obtain ⟨hs, hne⟩ := List.mem_filter.1 h
  obtain ⟨p, hp, rfl⟩ := List.mem_map.1 hs
  refine ⟨⟨by simpa using hne, Text.trim_trim _⟩, fun hcomma => ?_⟩
  have hmem := Text.mem_of_mem_trim hcomma
  rw [String.toList_ofList] at hmem
  exact Text.not_mem_of_mem_pieces hp hmem

/-! ### Ports -/

/-- A text spells a number that a port can have. -/
def IsPort (item : String) (n : Nat) : Prop := number? item = some n ∧ n < 65536

theorem port?_eq_some_iff {item port : String} :
    port? item = some port ↔ ∃ n, IsPort item n ∧ port = n.repr := by
  rw [port?, Option.bind_eq_some_iff]
  constructor
  · rintro ⟨n, hn, hport⟩
    split at hport
    · rename_i hlt
      cases hport
      exact ⟨n, ⟨hn, hlt⟩, rfl⟩
    · cases hport
  · rintro ⟨n, ⟨hn, hlt⟩, rfl⟩
    exact ⟨n, hn, if_pos hlt⟩

/-- The items of a reply spell some port numbers. -/
def ListsPorts (reply : String) (ns : List Nat) : Prop := List.Forall₂ IsPort (splitList reply) ns

theorem mapM_port?_eq_some_iff {items ports : List String} :
    items.mapM port? = some ports ↔
      ∃ ns, List.Forall₂ IsPort items ns ∧ ports = ns.map Nat.repr := by
  induction items generalizing ports with
  | nil =>
    rw [List.mapM_nil]
    constructor
    · intro h
      cases h
      exact ⟨[], .nil, rfl⟩
    · rintro ⟨ns, hns, rfl⟩
      cases hns
      rfl
  | cons item items ih =>
    rw [List.mapM_cons]
    constructor
    · intro h
      obtain ⟨port, hport, h⟩ := Option.bind_eq_some_iff.1 h
      obtain ⟨rest, hrest, h⟩ := Option.bind_eq_some_iff.1 h
      cases h
      obtain ⟨n, hn, rfl⟩ := port?_eq_some_iff.1 hport
      obtain ⟨ns, hns, rfl⟩ := ih.1 hrest
      exact ⟨n :: ns, .cons hn hns, rfl⟩
    · rintro ⟨ns, hns, rfl⟩
      cases hns with
      | cons hn hns =>
        rw [port?_eq_some_iff.2 ⟨_, hn, rfl⟩, ih.2 ⟨_, hns, rfl⟩]
        rfl

theorem ports?_eq_some_iff {reply : String} {ports : List String} :
    ports? reply = some ports ↔ ∃ ns, ListsPorts reply ns ∧ ports = ns.map Nat.repr :=
  mapM_port?_eq_some_iff

theorem ListsPorts.lt {reply : String} {ns : List Nat} (h : ListsPorts reply ns) :
    ∀ n ∈ ns, n < 65536 := by
  rw [ListsPorts] at h
  generalize splitList reply = items at h
  induction h with
  | nil => simp
  | cons hn _ ih => exact List.forall_mem_cons.2 ⟨hn.2, ih⟩

theorem exists_of_defaultPort? {framework port : String} (h : defaultPort? framework = some port) :
    ∃ n < 65536, port = n.repr := by
  rw [defaultPort?] at h
  split at h
  · cases h
    exact ⟨8000, by decide, by decide⟩
  · split at h
    · cases h
      exact ⟨3000, by decide, by decide⟩
    · cases h

variable {frameworks : List String} {reply : String}

theorem portsFor_of_lists {ns : List Nat} (h : ListsPorts reply ns) (hne : ns ≠ []) :
    portsFor frameworks reply = ns.map Nat.repr := by
  have hports := ports?_eq_some_iff.2 ⟨ns, h, rfl⟩
  rw [portsFor, hports, Option.getD_some, if_neg]
  simpa using hne

theorem portsFor_of_none (h : ∀ ns, ListsPorts reply ns → ns = []) :
    portsFor frameworks reply = (frameworks.head?.bind defaultPort?).toList := by
  rw [portsFor, if_pos]
  cases hports : ports? reply with
  | none => rfl
  | some ports =>
    obtain ⟨ns, hns, rfl⟩ := ports?_eq_some_iff.1 hports
    rw [h ns hns]
    rfl

theorem exists_of_mem_portsFor {port : String} (h : port ∈ portsFor frameworks reply) :
    ∃ n < 65536, port = n.repr := by
  by_cases hgiven : ∃ ns, ListsPorts reply ns ∧ ns ≠ []
  · obtain ⟨ns, hns, hne⟩ := hgiven
    rw [portsFor_of_lists hns hne] at h
    obtain ⟨n, hn, rfl⟩ := List.mem_map.1 h
    exact ⟨n, hns.lt n hn, rfl⟩
  · have hnone : ∀ ns, ListsPorts reply ns → ns = [] := by
      intro ns hns
      by_contra hne
      exact hgiven ⟨ns, hns, hne⟩
    rw [portsFor_of_none hnone, Option.mem_toList] at h
    obtain ⟨first, -, hport⟩ := Option.bind_eq_some_iff.1 h
    exact exists_of_defaultPort? hport

/-! ### The entries of the answers -/

section Entries

/-- A key that an interview may leave out. -/
def optional (given : Bool) (key : String) : List String := if given then [key] else []

@[simp] theorem mem_optional {given : Bool} {key k : String} :
    k ∈ optional given key ↔ given = true ∧ k = key := by
  cases given <;> simp [optional]

theorem sublist_optional (given : Bool) (key : String) : (optional given key).Sublist [key] := by
  cases given <;> simp [optional]

variable (a : Answers)

def entriesOf : List (String × Value) :=
  a.project.entries ++ a.stack.entries ++ a.requirements.entries ++ a.workflow.entries
    ++ a.confirmation.entries

/-- The keys of the answers, in the order of their entries. -/
def keysOf : List String :=
  ["project_name", "project_type", "primary_language"]
    ++ (optional a.stack.services?.isSome "services" ++ ["ports", "architecture"]
      ++ optional a.stack.frameworks.head?.isSome "framework"
      ++ optional (!a.stack.extras.isEmpty) "technologies" ++ ["frameworks"])
    ++ (optional (a.requirements.deployment == "docker") "containerization"
      ++ optional (a.requirements.deployment == "kubernetes") "orchestration"
      ++ ["deployment_type", "networking", "databases"]
      ++ optional (!a.requirements.constraints.isEmpty) "constraints")
    ++ ["coding_standards", "file_organization", "testing_framework"]
    ++ (["confirmed"] ++ optional (!a.confirmation.exampleLines.isEmpty) "examples")

theorem keys_toList {α : Type} (o : Option α) (key : String) (f : α → Value) :
    (o.toList.map fun x => (key, f x)).map (·.1) = optional o.isSome key := by
  cases o <;> rfl

theorem keys_ite (empty : Bool) (key : String) (v : Value) :
    (if empty = true then [] else [(key, v)]).map (·.1) = optional (!empty) key := by
  cases empty <;> rfl

theorem platformEntries_eq (deployment : String) :
    Requirements.platformEntries deployment =
      if deployment = "docker" then [("containerization", .list ["docker"])]
      else if deployment = "kubernetes" then [("orchestration", .list ["kubernetes"])]
      else [] := by
  unfold Requirements.platformEntries
  split
  · rfl
  · rfl
  · rename_i hdocker hkubernetes
    rw [if_neg hdocker, if_neg hkubernetes]

theorem keys_platform (deployment : String) :
    (Requirements.platformEntries deployment).map (·.1) =
      optional (deployment == "docker") "containerization" ++
        optional (deployment == "kubernetes") "orchestration" := by
  rw [platformEntries_eq]
  by_cases hdocker : deployment = "docker"
  · subst hdocker
    rfl
  · by_cases hkubernetes : deployment = "kubernetes"
    · subst hkubernetes
      rfl
    · simp [hdocker, hkubernetes, optional]

theorem map_fst_entriesOf : (entriesOf a).map (·.1) = keysOf a := by
  simp only [entriesOf, Classification.entries, TechStack.entries, Requirements.entries,
    Workflow.entries, Confirmation.entries, List.map_append, List.map_cons, keys_toList, keys_ite,
    keys_platform, keysOf, List.append_assoc, List.cons_append, List.nil_append]

/-- No key is answered twice: with every key that may be left out, all are different. -/
theorem nodup_keysOf : (keysOf a).Nodup := by
  have hkeys : (keysOf a).Sublist (["project_name", "project_type", "primary_language"]
      ++ (["services"] ++ ["ports", "architecture"] ++ ["framework"] ++ ["technologies"]
        ++ ["frameworks"])
      ++ (["containerization"] ++ ["orchestration"]
        ++ ["deployment_type", "networking", "databases"] ++ ["constraints"])
      ++ ["coding_standards", "file_organization", "testing_framework"]
      ++ (["confirmed"] ++ ["examples"])) := by
    repeat' apply List.Sublist.append
    all_goals first | exact sublist_optional _ _ | exact List.Sublist.refl _
  exact hkeys.nodup (by decide)

theorem forall_mem_entriesOf {P : Value → Prop} (htext : ∀ s, P (.text s))
    (hlist : ∀ l, P (.list l)) (hbool : ∀ b, P (.bool b)) : ∀ e ∈ entriesOf a, P e.2 := by
  have hstack : ∀ e ∈ a.stack.entries, P e.2 := by
    rw [TechStack.entries]
    cases a.stack.services? <;> cases a.stack.frameworks.head? <;> split <;>
      simp [htext, hlist]
  have hplatform : ∀ e ∈ Requirements.platformEntries a.requirements.deployment, P e.2 := by
    rw [platformEntries_eq]
    split
    · simp [hlist]
    · split <;> simp [hlist]
  have hrequirements : ∀ e ∈ a.requirements.entries, P e.2 := by
    rw [Requirements.entries, List.forall_mem_append, List.forall_mem_append]
    refine ⟨⟨hplatform, by simp [htext, hlist]⟩, ?_⟩
    split <;> simp [htext]
  have hconfirmation : ∀ e ∈ a.confirmation.entries, P e.2 := by
    rw [Confirmation.entries]
    split <;> simp [htext, hbool]
  rw [entriesOf, List.forall_mem_append, List.forall_mem_append, List.forall_mem_append,
    List.forall_mem_append]
  refine ⟨⟨⟨⟨?_, hstack⟩, hrequirements⟩, ?_⟩, hconfirmation⟩
  · simp [Classification.entries, htext]
  · simp [Workflow.entries, htext]

variable {a}

theorem get?_toContext_of_mem {key : String} {v : Value} (h : (key, v) ∈ entriesOf a) :
    a.toContext.get? key = some v := by
  have hkeys : ((entriesOf a).map (·.1)).Nodup := by
    rw [map_fst_entriesOf]
    exact nodup_keysOf a
  exact Dictionary.get?_insertAll_of_mem hkeys h

theorem get?_toContext_of_notMem {key : String} (h : key ∉ keysOf a) :
    a.toContext.get? key = none := by
  rw [← map_fst_entriesOf] at h
  exact Dictionary.get?_insertAll_of_notMem h

/-- A key that was answered keeps its answer. -/
theorem get?_completed_of_mem {key : String} {v : Value} (h : (key, v) ∈ entriesOf a)
    (htechnologies : key ≠ "technologies") :
    (Engine.standard.normalize a.toContext).get? key = some v := by
  have hplain := forall_mem_entriesOf a (P := fun v => v.isNull = false ∧ v.map? = none)
    (fun _ => ⟨rfl, rfl⟩) (fun _ => ⟨rfl, rfl⟩) (fun _ => ⟨rfl, rfl⟩) _ h
  exact Normal.get?_normalize_of_some (get?_toContext_of_mem h) hplain.1 hplain.2 htechnologies

/-- A key that was not answered gets its default. -/
theorem get?_completed_of_notMem {key : String} (h : key ∉ keysOf a)
    (htechnologies : key ≠ "technologies") (hnetworking : key ≠ "networking") :
    (Engine.standard.normalize a.toContext).get? key =
      (Defaults.standard.get? key).map DefaultValue.toValue :=
  Normal.get?_normalize_of_none (get?_toContext_of_notMem h) htechnologies hnetworking

/-- A value that is not null and has no null in it. -/
def IsGiven (v : Value) : Prop := v.isNull = false ∧ v.map?.getD [] = []

theorem isGiven_of_mem_completed :
    ∀ e ∈ (Engine.standard.normalize a.toContext).entries, IsGiven e.2 := by
  have hempty : ∀ e ∈ (Dictionary.empty : Context).entries, IsGiven e.2 := by
    simp [Dictionary.empty]
  have hentries : ∀ e ∈ a.toContext.entries, IsGiven e.2 :=
    Dictionary.forall_insertAll hempty (forall_mem_entriesOf a (fun _ => ⟨rfl, rfl⟩)
      (fun _ => ⟨rfl, rfl⟩) fun _ => ⟨rfl, rfl⟩)
  refine Normal.forall_normalize hentries ?_ fun _ => ⟨rfl, rfl⟩
  intro entry _
  cases entry.2 <;> exact ⟨rfl, rfl⟩

theorem services_completed :
    (Engine.standard.normalize a.toContext).get? "services" =
      some (.list (a.stack.services?.getD [])) := by
  cases hservices : a.stack.services? with
  | none =>
    rw [get?_completed_of_notMem (by simp [keysOf, hservices]) (by decide) (by decide)]
    rfl
  | some services =>
    exact get?_completed_of_mem (by simp [entriesOf, TechStack.entries, hservices]) (by decide)

theorem framework_completed :
    (Engine.standard.normalize a.toContext).get? "framework" =
      some (.text (a.stack.frameworks.head?.getD "unknown")) := by
  cases hfirst : a.stack.frameworks.head? with
  | none =>
    rw [get?_completed_of_notMem (by simp [keysOf, hfirst]) (by decide) (by decide)]
    rfl
  | some first =>
    exact get?_completed_of_mem (by simp [entriesOf, TechStack.entries, hfirst]) (by decide)

theorem containerization_completed :
    (Engine.standard.normalize a.toContext).get? "containerization" =
      some (.list (if a.requirements.deployment = "docker" then ["docker"] else [])) := by
  split
  · rename_i hdocker
    exact get?_completed_of_mem
      (by simp [entriesOf, Requirements.entries, platformEntries_eq, hdocker]) (by decide)
  · rename_i hdocker
    rw [get?_completed_of_notMem (by simp [keysOf, hdocker]) (by decide) (by decide)]
    rfl

theorem orchestration_completed :
    (Engine.standard.normalize a.toContext).get? "orchestration" =
      some (.list (if a.requirements.deployment = "kubernetes" then ["kubernetes"] else [])) := by
  split
  · rename_i hkubernetes
    exact get?_completed_of_mem
      (by simp [entriesOf, Requirements.entries, platformEntries_eq, hkubernetes]) (by decide)
  · rename_i hkubernetes
    rw [get?_completed_of_notMem (by simp [keysOf, hkubernetes]) (by decide) (by decide)]
    rfl

/-- The answers that are words. -/
def wordsOf (a : Answers) : List (String × String) :=
  [("project_name", a.project.name), ("project_type", a.project.projectType),
    ("primary_language", a.project.language), ("architecture", a.stack.architecture),
    ("deployment_type", a.requirements.deployment), ("networking", a.requirements.networking),
    ("coding_standards", a.workflow.standards), ("file_organization", a.workflow.organization),
    ("testing_framework", a.workflow.testing)]

theorem mem_entriesOf_of_mem_wordsOf {e : String × String} (h : e ∈ wordsOf a) :
    (e.1, .text e.2) ∈ entriesOf a := by
  have hall : ∀ e ∈ wordsOf a, (e.1, Value.text e.2) ∈ entriesOf a := by
    simp [wordsOf, entriesOf, Classification.entries, TechStack.entries, Requirements.entries,
      Workflow.entries]
  exact hall e h

theorem ne_technologies_of_mem_wordsOf {e : String × String} (h : e ∈ wordsOf a) :
    e.1 ≠ "technologies" := by
  have hall : ∀ e ∈ wordsOf a, e.1 ≠ "technologies" := by simp [wordsOf]
  exact hall e h

/-- How the answers show in a context that was made of them and completed. -/
structure Shows (a : Answers) (ctx : Context) : Prop where
  settled : Engine.standard.normalize ctx = ctx
  words : ∀ e ∈ wordsOf a, ctx.get? e.1 = some (.text e.2)
  frameworks : ctx.get? "frameworks" = some (.list a.stack.frameworks)
  framework : ctx.get? "framework" = some (.text (a.stack.frameworks.head?.getD "unknown"))
  services : ctx.get? "services" = some (.list (a.stack.services?.getD []))
  ports : ctx.get? "ports" = some (.list a.stack.ports)
  databases : ctx.get? "databases" = some (.list a.requirements.databases)
  containerization : ctx.get? "containerization" =
    some (.list (if a.requirements.deployment = "docker" then ["docker"] else []))
  orchestration : ctx.get? "orchestration" =
    some (.list (if a.requirements.deployment = "kubernetes" then ["kubernetes"] else []))
  confirmed : ctx.get? "confirmed" = some (.bool a.confirmation.confirmed)
  given : ∀ e ∈ ctx.entries, IsGiven e.2

theorem shows_completed : Shows a (Engine.standard.normalize a.toContext) where
  settled := Normal.normalize_normalize _ _
  words _ he :=
    get?_completed_of_mem (mem_entriesOf_of_mem_wordsOf he) (ne_technologies_of_mem_wordsOf he)
  frameworks := get?_completed_of_mem (by simp [entriesOf, TechStack.entries]) (by decide)
  framework := framework_completed
  services := services_completed
  ports := get?_completed_of_mem (by simp [entriesOf, TechStack.entries]) (by decide)
  databases := get?_completed_of_mem (by simp [entriesOf, Requirements.entries]) (by decide)
  containerization := containerization_completed
  orchestration := orchestration_completed
  confirmed := get?_completed_of_mem (by simp [entriesOf, Confirmation.entries]) (by decide)
  given := isGiven_of_mem_completed

/-- The context of an interview shows the answers of its script. -/
theorem exists_shows {room : Option Nat} {ctx : Context} {d : Dialogue}
    (h : run .standard script room = (.ok ctx, d)) : ∃ a, AnswersRead script a ∧ Shows a ctx := by
  obtain ⟨a, ha, hctx⟩ := exists_answers h
  refine ⟨a, ha, ?_⟩
  rw [hctx]
  exact shows_completed

end Entries

/-! ### What every interview leaves -/

theorem isWord_standards (language : String) : IsWord (defaultStandard language) := by
  rw [defaultStandard]
  split <;> decide

theorem isWord_testing (language : String) : IsWord (defaultTesting language) := by
  rw [defaultTesting]
  split
  · decide
  · split <;> decide

theorem AnswersRead.isWord {a : Answers} (h : AnswersRead script a) :
    ∀ e ∈ wordsOf a, IsWord e.2 := by
  obtain ⟨n, hworkflow⟩ := h.workflow
  have htype : IsWord (classified script).projectType := isProper_projectTypes.value _
  have hname : IsWord (script.reply 0) := ⟨h.name, Script.trim_reply script 0⟩
  simp only [wordsOf, h.project, h.stack.architecture, h.requirements, hworkflow,
    List.forall_mem_cons]
  refine ⟨hname, htype, isProper_languages.value _, isWord_orDefault htype,
    isProper_deployments.value _, isWord_orDefault (by decide),
    isWord_orDefault (isWord_standards _), isWord_orDefault (by decide),
    isWord_orDefault (isWord_testing _), ?_⟩
  simp

/-- What a script leaves in the context of its interview. -/
structure Collected (script : Script) (ctx : Context) : Prop where
  settled : Engine.standard.normalize ctx = ctx
  words : ∀ key ∈ ["project_name", "project_type", "primary_language", "architecture",
      "deployment_type", "networking", "coding_standards", "file_organization",
      "testing_framework"], ∃ s, ctx.get? key = some (.text s) ∧ IsWord s
  items : ∀ key ∈ ["frameworks", "services", "databases"],
    ∃ l, ctx.get? key = some (.list l) ∧ ∀ s ∈ l, IsItem s
  framework : ∃ l, ctx.get? "frameworks" = some (.list l) ∧
    ctx.get? "framework" = some (.text (l.head?.getD "unknown"))
  services : ctx.get? "services" ≠ some (.list []) →
    ctx.get? "project_type" = some (.text "microservices") ∨
      ctx.get? "project_type" = some (.text "monorepo")
  ports : ∃ l ports, ctx.get? "frameworks" = some (.list l) ∧
    ctx.get? "ports" = some (.list ports) ∧
    (∀ p ∈ ports, ∃ n < 65536, p = n.repr) ∧
    (∀ ns, ListsPorts (script.reply (portsLine script)) ns → ns ≠ [] → ports = ns.map Nat.repr) ∧
    ((∀ ns, ListsPorts (script.reply (portsLine script)) ns → ns = []) →
      ports = (l.head?.bind defaultPort?).toList)
  containerization : ctx.get? "containerization" =
    some (.list (if ctx.get? "deployment_type" = some (.text "docker") then ["docker"] else []))
  orchestration : ctx.get? "orchestration" =
    some (.list (if ctx.get? "deployment_type" = some (.text "kubernetes") then ["kubernetes"]
      else []))
  confirmed : ∃ b, ctx.get? "confirmed" = some (.bool b)
  given : ∀ e ∈ ctx.entries, IsGiven e.2

/-- **What every interview leaves in its context**, whatever was answered and wherever the input
ended. -/
theorem collected_of_run {room : Option Nat} {ctx : Context} {d : Dialogue}
    (h : run .standard script room = (.ok ctx, d)) : Collected script ctx := by
  obtain ⟨a, ha, hs⟩ := exists_shows h
  have hitem (reply : String) : ∀ s ∈ splitList reply, IsItem s := fun _ => isItem_of_mem_splitList
  have hservices : ∀ s ∈ a.stack.services?.getD [], IsItem s := by
    rw [ha.stack.services]
    split
    · exact hitem _
    · simp
  have htype : ctx.get? "project_type" = some (.text a.project.projectType) :=
    hs.words ("project_type", a.project.projectType) (by simp [wordsOf])
  have hdeployment : ctx.get? "deployment_type" = some (.text a.requirements.deployment) :=
    hs.words ("deployment_type", a.requirements.deployment) (by simp [wordsOf])
  refine ⟨hs.settled, ?_, ?_, ⟨_, hs.frameworks, hs.framework⟩, ?_, ?_, ?_, ?_,
    ⟨_, hs.confirmed⟩, hs.given⟩
  · intro key hkey
    obtain ⟨e, he, rfl⟩ := List.mem_map.1 (show key ∈ (wordsOf a).map (·.1) from hkey)
    exact ⟨e.2, hs.words e he, ha.isWord e he⟩
  · simp only [List.forall_mem_cons]
    refine ⟨⟨_, hs.frameworks, ?_⟩, ⟨_, hs.services, hservices⟩, ⟨_, hs.databases, ?_⟩, by simp⟩
    · rw [ha.stack.frameworks]
      exact hitem _
    · rw [ha.requirements]
      exact hitem _
  · rw [hs.services, ha.stack.services, htype, ha.project]
    intro hne
    split at hne
    · rename_i htypes
      rw [hasServices, Bool.or_eq_true, beq_iff_eq, beq_iff_eq] at htypes
      simpa using htypes
    · exact absurd rfl hne
  · refine ⟨_, _, hs.frameworks, hs.ports, ?_, ?_, ?_⟩
    · rw [ha.stack.ports]
      exact fun p => exists_of_mem_portsFor
    · rw [ha.stack.ports]
      exact fun ns => portsFor_of_lists
    · rw [ha.stack.ports, ha.stack.frameworks]
      exact portsFor_of_none
  · rw [hs.containerization, hdeployment]
    simp
  · rw [hs.orchestration, hdeployment]
    simp

/-- Services, a port with a sign and one with a zero in front, and an input that ends early. -/
theorem collected_of_run_services :
    ∃ ctx d, run .standard (Script.ofText "Shop\n1\n1\nDjango\n\nweb, db\n+80, 0443\n") none =
        (.ok ctx, d) ∧
      Collected (Script.ofText "Shop\n1\n1\nDjango\n\nweb, db\n+80, 0443\n") ctx ∧
      ctx.get? "ports" = some (.list ["80", "443"]) := by
  have hports : (run .standard
      (Script.ofText "Shop\n1\n1\nDjango\n\nweb, db\n+80, 0443\n") none).1.toOption.any
        (fun ctx => ctx.get? "ports" == some (.list ["80", "443"])) = true := by
    decide +kernel
  obtain ⟨ctx, d, hrun, hctx⟩ := exists_run_of_any hports
  exact ⟨ctx, d, hrun, collected_of_run hrun, eq_of_beq hctx⟩

end Interview

end WorkspaceTemplates

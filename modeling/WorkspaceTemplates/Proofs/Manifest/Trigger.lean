/-
  WorkspaceTemplates/Proofs/Manifest/Trigger.lean
  ===============================================
  **What the lists of a workspace promise.**

  An entry of a list says when its file is to be loaded.  `Trigger.Holds` says what a
  trigger asks of a context, apart from how triggers are chosen, and `entries?` reads
  the entries of a list from its text.  Three things are decided on their own from the
  value of a key: whether a file is selected, whether a condition holds, and which
  triggers an entry has.  They agree: every trigger that a list shows holds of the
  context it was made for, and an entry has triggers exactly when its file is
  selected without being forced (`triggers_of_manifests`).
-/
import WorkspaceTemplates.Proofs.Generate.Listing
import WorkspaceTemplates.Proofs.Selection
import WorkspaceTemplates.Proofs.Text.Case
import WorkspaceTemplates.Proofs.Text.Pieces

namespace WorkspaceTemplates

/-! ### What a trigger asks -/

/-- What a trigger asks of a context.  The key has a value in any case.  A value differs from a text
when its plain text does, and contains a word in any letter case. -/
def Trigger.Holds (ctx : Context) : Trigger → Prop
  | .differs key none => ∃ v, ctx.get? key = some v ∧ v ≠ .null
  | .differs key (some text) => ∃ v, ctx.get? key = some v ∧ v.plain ≠ text
  | .contains key word =>
    ∃ v, ctx.get? key = some v ∧ (Text.lower word).toList <:+: (Text.lower v.plain).toList

theorem Value.ne_null_of_isEmpty {v : Value} (h : v.isEmpty = false) : v ≠ .null := by
  rintro rfl
  cases h

theorem Condition.exists_of_mentions {ctx : Context} {key word : String}
    (h : mentions ctx key word = true) :
    ∃ v, ctx.get? key = some v ∧ word.toList <:+: (Text.lower v.plain).toList := by
  rw [mentions] at h
  split at h
  · rename_i v hv
    rw [Bool.and_eq_true] at h
    exact ⟨v, hv, Text.occursIn_iff.1 h.2⟩
  · cases h

namespace LoadConditions

theorem holds_of_mem_triggersFor {ctx : Context} {key : String} {t : Trigger}
    (h : t ∈ triggersFor ctx key) : t.Holds ctx := by
  rw [triggersFor] at h
  split at h
  · rename_i hkey
    rw [beq_iff_eq] at hkey
    subst hkey
    split at h
    · rename_i hdocker
      obtain rfl := List.mem_singleton.1 h
      obtain ⟨v, hv, hword⟩ := Condition.exists_of_mentions hdocker
      have hlower : Text.lower "docker" = "docker" := by decide +kernel
      exact ⟨v, hv, by rw [hlower]; exact hword⟩
    · cases h
  · split at h
    · rename_i hknown
      obtain ⟨v, hv, hcarries, hunknown⟩ := Selection.isKnown_eq_true_iff.1 hknown
      simp only [List.mem_cons, List.not_mem_nil, or_false] at h
      rcases h with rfl | rfl
      · exact ⟨v, hv, hunknown⟩
      · exact ⟨v, hv, v.ne_null_of_isEmpty hcarries⟩
    · cases h

/-- A key on which levels or kinds depend has triggers exactly when it is known. -/
theorem triggersFor_ne_nil_iff {ctx : Context} {key : String} (hkey : key ≠ "containerization") :
    triggersFor ctx key ≠ [] ↔ Selection.isKnown ctx key = true := by
  rw [triggersFor, if_neg (by simpa using hkey)]
  cases Selection.isKnown ctx key <;> simp

theorem triggersFor_containerization_ne_nil_iff {ctx : Context} :
    triggersFor ctx "containerization" ≠ [] ↔ Condition.docker.holds ctx = true := by
  rw [triggersFor, if_pos (by decide)]
  cases Condition.docker.holds ctx <;> simp

@[simp] theorem triggers_ofKey_some (ctx : Context) (key : String) :
    (ofKey ctx (some key)).triggers = triggersFor ctx key := rfl

theorem triggers_ofKey_holds {ctx : Context} {key? : Option String} :
    ∀ t ∈ (ofKey ctx key?).triggers, t.Holds ctx := by
  cases key? with
  | none => simp [ofKey]
  | some key => exact fun t ht => holds_of_mem_triggersFor ht

theorem alwaysLoad_ofKey_iff {ctx : Context} {key? : Option String} :
    (ofKey ctx key?).alwaysLoad = true ↔ (ofKey ctx key?).required = [] := by
  cases key? <;> simp [ofKey]

/-- The rules of a level that depends on a key have triggers exactly when they are needed without
being forced. -/
theorem triggers_level_ne_nil_iff {ctx : Context} {l : Level}
    (h : (ofKey ctx l.gatingKey?).alwaysLoad = false) :
    (ofKey ctx l.gatingKey?).triggers ≠ [] ↔ l ∈ Selection.levels ctx [] := by
  rw [Selection.mem_levels_iff]
  cases l with
  | core | architecture => cases h
  | projectType | language | framework =>
    simp only [Level.gatingKey?, Option.some.injEq, forall_eq', List.not_mem_nil, or_false,
      triggers_ofKey_some]
    exact triggersFor_ne_nil_iff (by decide)

theorem triggers_command_ne_nil_iff {ctx : Context} {c : Command}
    (h : (ofKey ctx c.gatingKey?).alwaysLoad = false) :
    (ofKey ctx c.gatingKey?).triggers ≠ [] ↔ c ∈ Selection.commands ctx := by
  rw [Selection.commands, List.mem_filter, and_iff_right c.mem_all]
  cases c with
  | build => cases h
  | test | deploy =>
    simp only [Command.gatingKey?, triggers_ofKey_some]
    exact triggersFor_ne_nil_iff (by decide)
  | docker => exact triggersFor_containerization_ne_nil_iff

end LoadConditions

/-! ### Places of selected files -/

namespace Generate

variable {levels : List Level} {kinds : List Command}

theorem rule_mem_places_iff {l : Level} : Layout.rule l ∈ places levels kinds ↔ l ∈ levels := by
  constructor
  · intro h
    exact rule_mem_templates_iff.1 (mem_templates_of_target_mem_places (t := .rule l) h)
  · intro h
    simp only [places, List.mem_append, List.mem_cons]
    exact .inl (.inl (.inr (List.mem_map_of_mem h)))

theorem command_mem_places_iff {c : Command} :
    Layout.command c ∈ places levels kinds ↔ c ∈ kinds := by
  constructor
  · intro h
    exact command_mem_templates_iff.1 (mem_templates_of_target_mem_places (t := .command c) h)
  · intro h
    simp only [places, List.mem_append, List.mem_cons]
    exact .inl (.inr (List.mem_map_of_mem h))

end Generate

/-! ### Reading entries -/

namespace Manifest

open LoadConditions (ofKey)

/-- Read a list of texts. -/
def strings? (j : Json) : Option (List String) := j.array?.bind fun items => items.mapM Json.string?

/-- Read a trigger. -/
def trigger? (j : Json) : Option Trigger := do
  let key ← (j.member? "field").bind Json.string?
  let operator ← (j.member? "operator").bind Json.string?
  let value ← j.member? "value"
  match operator, value with
  | "!=", .null => some (.differs key none)
  | "!=", .string text => some (.differs key (some text))
  | "contains", .string word => some (.contains key word)
  | _, _ => none

/-- Read when a file is to be loaded. -/
def conditions? (j : Json) : Option LoadConditions := do
  let always ← (j.member? "always_load").bind Json.bool?
  let required ← (j.member? "context_required").bind strings?
  let triggers ← (j.member? "triggers").bind Json.array?
  return ⟨always, required, ← triggers.mapM trigger?⟩

/-- What an entry says about when its file is to be loaded. -/
structure Entry where
  path : String
  conditions : LoadConditions
  /-- Whether the file is always loaded and the keys that it needs, where an entry says this once
  more beside its conditions. -/
  summary? : Option (Bool × List String)

/-- Read the summary of an entry. -/
def summary? (j : Json) : Option (Bool × List String) := do
  let always ← (j.member? "always_load").bind Json.bool?
  return (always, ← (j.member? "context_required").bind strings?)

/-- Read an entry. -/
def entryOf? (j : Json) : Option Entry := do
  let path ← (j.member? "path").bind Json.string?
  return ⟨path, ← (j.member? "conditions").bind conditions?, summary? j⟩

/-- The entries that the text of a list has under a key. -/
def entries? (key text : String) : Option (List Entry) := do
  let manifest ← Json.parse? text
  let entries ← (manifest.member? key).bind Json.array?
  entries.mapM entryOf?

/-! ### What is read is what was written -/

theorem strings?_strings (items : List String) : strings? (Json.strings items) = some items := by
  have hitems := mapM_map_of_eq_some (f := Json.string) (g := Json.string?) (k := id)
    (fun _ => rfl) items
  rwa [List.map_id] at hitems

theorem trigger?_triggerJson (t : Trigger) : trigger? (triggerJson t) = some t := by
  rcases t with ⟨key, _ | text⟩ | ⟨key, word⟩ <;> rfl

theorem conditions?_conditionsJson (c : LoadConditions) :
    conditions? (conditionsJson c) = some c := by
  have hrequired : (((conditionsJson c).member? "context_required").bind strings?) =
      some c.required := strings?_strings c.required
  have htriggers := mapM_map_of_eq_some (k := id) trigger?_triggerJson c.triggers
  rw [List.map_id] at htriggers
  have hlist : ((conditionsJson c).member? "triggers").bind Json.array? =
      some (c.triggers.map triggerJson) := rfl
  rw [conditions?, hrequired, hlist]
  simp only [Option.bind_eq_bind, Option.bind_some, htriggers]
  rfl

/-- The entry of the rules of a level, as it is read. -/
def Entry.ofLevel (ctx : Context) (l : Level) : Entry :=
  ⟨Layout.rule l, ofKey ctx l.gatingKey?, some (l.alwaysLoad, l.gatingKey?.toList)⟩

/-- The entry of the commands of a kind, as it is read. -/
def Entry.ofCommand (ctx : Context) (c : Command) : Entry :=
  ⟨Layout.command c, ofKey ctx c.gatingKey?, none⟩

theorem entryOf?_ruleEntry (ctx : Context) (l : Level) :
    entryOf? (ruleEntry ctx l) = some (.ofLevel ctx l) := by
  have hpath : ((ruleEntry ctx l).member? "path").bind Json.string? = some (Layout.rule l) := rfl
  have hconditions : ((ruleEntry ctx l).member? "conditions").bind conditions? =
      some (ofKey ctx l.gatingKey?) := conditions?_conditionsJson _
  have hrequired : ((ruleEntry ctx l).member? "context_required").bind strings? =
      some l.gatingKey?.toList := strings?_strings _
  have hsummary : summary? (ruleEntry ctx l) = some (l.alwaysLoad, l.gatingKey?.toList) := by
    rw [summary?, hrequired]
    rfl
  rw [entryOf?, hpath, hconditions, hsummary]
  rfl

theorem entryOf?_commandEntry (ctx : Context) (c : Command) :
    entryOf? (commandEntry ctx c) = some (.ofCommand ctx c) := by
  have hpath : ((commandEntry ctx c).member? "path").bind Json.string? =
      some (Layout.command c) := rfl
  have hconditions : ((commandEntry ctx c).member? "conditions").bind conditions? =
      some (ofKey ctx c.gatingKey?) := conditions?_conditionsJson _
  rw [entryOf?, hpath, hconditions]
  rfl

/-- The entries of the list of the rules are those of its levels. -/
theorem entries?_rules (ctx : Context) (levels : List Level) :
    entries? "rules" (text (rules ctx levels)) = some (levels.map (.ofLevel ctx)) := by
  rw [entries?, parse?_rules]
  exact mapM_map_of_eq_some (entryOf?_ruleEntry ctx) levels

/-- The entries of the list of the commands are those of its kinds. -/
theorem entries?_commands (ctx : Context) (kinds : List Command) :
    entries? "commands" (text (commands ctx kinds)) = some (kinds.map (.ofCommand ctx)) := by
  rw [entries?, parse?_commands]
  exact mapM_map_of_eq_some (entryOf?_commandEntry ctx) kinds

/-! ### What entries promise -/

/-- An entry keeps its promises in a context: its triggers hold, it has some exactly when its file is
one of those that are generated without being forced, unless the file is always loaded, and it is
always loaded exactly when it needs no key.  What it says twice, it says twice alike. -/
structure Entry.Keeps (ctx : Context) (e : Entry) : Prop where
  holds : ∀ t ∈ e.conditions.triggers, t.Holds ctx
  selected : e.conditions.alwaysLoad = false →
    (e.conditions.triggers ≠ [] ↔
      e.path ∈ Generate.places (Selection.levels ctx []) (Selection.commands ctx))
  required : e.conditions.alwaysLoad = true ↔ e.conditions.required = []
  summary : ∀ said ∈ e.summary?, said = (e.conditions.alwaysLoad, e.conditions.required)

theorem Entry.keeps_ofLevel (ctx : Context) (l : Level) : (Entry.ofLevel ctx l).Keeps ctx where
  holds := LoadConditions.triggers_ofKey_holds
  selected h := (LoadConditions.triggers_level_ne_nil_iff h).trans
    Generate.rule_mem_places_iff.symm
  required := LoadConditions.alwaysLoad_ofKey_iff
  summary := by
    intro said hsaid
    obtain rfl := Option.some.inj hsaid
    cases l <;> rfl

theorem Entry.keeps_ofCommand (ctx : Context) (c : Command) :
    (Entry.ofCommand ctx c).Keeps ctx where
  holds := LoadConditions.triggers_ofKey_holds
  selected h := (LoadConditions.triggers_command_ne_nil_iff h).trans
    Generate.command_mem_places_iff.symm
  required := LoadConditions.alwaysLoad_ofKey_iff
  summary := nofun

/-- **A list shows no trigger that does not hold.**  The lists of the rules and of the commands for a
context, forced levels included, can be read, they have one entry for each selected file, and all
of their entries keep their promises in that context. -/
theorem triggers_of_manifests (ctx : Context) (forced : List Level) :
    ∃ ofRules ofCommands,
      entries? "rules" (text (rules ctx (Selection.levels ctx forced))) = some ofRules ∧
      entries? "commands" (text (commands ctx (Selection.commands ctx))) = some ofCommands ∧
      ofRules.map (·.path) = (Selection.levels ctx forced).map Layout.rule ∧
      ofCommands.map (·.path) = (Selection.commands ctx).map Layout.command ∧
      ∀ e ∈ ofRules ++ ofCommands, e.Keeps ctx := by
  refine ⟨_, _, entries?_rules ctx _, entries?_commands ctx _, ?_, ?_, ?_⟩
  · rw [List.map_map]
    rfl
  · rw [List.map_map]
    rfl
  · intro e he
    rcases List.mem_append.1 he with he | he
    · obtain ⟨l, -, rfl⟩ := List.mem_map.1 he
      exact Entry.keeps_ofLevel ctx l
    · obtain ⟨c, -, rfl⟩ := List.mem_map.1 he
      exact Entry.keeps_ofCommand ctx c

end Manifest

end WorkspaceTemplates

/-
  WorkspaceTemplates/Proofs/Manifest.lean
  =======================================
  **What the lists of a workspace say when they are read.**

  A list is JSON with integers and little nesting, so its text is read back as the
  list itself, and the files that it names are those of the levels or kinds that it
  was made from, in their order.
-/
import WorkspaceTemplates.Manifest
import WorkspaceTemplates.Proofs.Json.RoundTrip

namespace WorkspaceTemplates.Manifest

open Json (Fits FitItems FitMembers)

/-! ### Reading a list -/

/-- The name and the path of the file that an entry is about. -/
def file? (entry : Json) : Option (String × String) := do
  let name ← (entry.member? "file").bind Json.string?
  let path ← (entry.member? "path").bind Json.string?
  return (name, path)

/-- The names and the paths of the files that the text of a list has under a key. -/
def files? (key text : String) : Option (List (String × String)) := do
  let manifest ← Json.parse? text
  let entries ← (manifest.member? key).bind Json.array?
  entries.mapM file?

/-! ### Lists fit -/

section Fits

variable {room : Nat}

theorem fits_strings (h : 0 < room) (items : List String) : Fits room (Json.strings items) :=
  ⟨h, Json.fitItems_map fun _ _ => trivial⟩

theorem fits_triggerJson (h : 0 < room) (t : Trigger) : Fits room (triggerJson t) := by
  cases t with
  | differs key value =>
    cases value with
    | none => simp [triggerJson, Fits, FitMembers, h]
    | some v => simp [triggerJson, Fits, FitMembers, h]
  | contains key value => simp [triggerJson, Fits, FitMembers, h]

theorem fits_conditionsJson (h : 2 < room) (c : LoadConditions) :
    Fits room (conditionsJson c) := by
  have hrequired : Fits (room - 1) (Json.strings c.required) := fits_strings (by omega) c.required
  have htriggers : Fits (room - 1) (.array (c.triggers.map triggerJson)) :=
    ⟨by omega, Json.fitItems_map fun t _ => fits_triggerJson (by omega) t⟩
  exact ⟨by omega, trivial, hrequired, htriggers, trivial⟩

theorem fits_ofNat {n : Nat} (h : n < UInt64.size) : Fits room (Json.ofNat n) := h

theorem fits_ruleEntry (h : 3 < room) (ctx : Context) (l : Level) :
    Fits room (ruleEntry ctx l) := by
  have hconditions := @fits_conditionsJson (room - 1) (by omega) (.ofKey ctx l.gatingKey?)
  have hrequired := @fits_strings (room - 1) (by omega) l.gatingKey?.toList
  have hnumber : Fits (room - 1) (Json.ofNat l.number) := fits_ofNat (by cases l <;> decide)
  exact ⟨by omega, trivial, hconditions, hrequired, trivial, trivial, hnumber, hnumber, trivial,
    trivial, trivial, trivial⟩

theorem fits_commandEntry (h : 3 < room) (ctx : Context) (c : Command) :
    Fits room (commandEntry ctx c) := by
  have hconditions := @fits_conditionsJson (room - 1) (by omega) (.ofKey ctx c.gatingKey?)
  have horder : Fits (room - 1) (Json.ofNat c.loadOrder) := fits_ofNat (by cases c <;> decide)
  exact ⟨by omega, hconditions, trivial, trivial, trivial, horder, trivial, trivial, trivial⟩

end Fits

theorem parse?_rules (ctx : Context) (levels : List Level) :
    Json.parse? (text (rules ctx levels)) = some (rules ctx levels) := by
  apply Json.parse?_pretty
  · exact ⟨by decide, trivial,
      ⟨by decide, Json.fitItems_map fun l _ => fits_ruleEntry (by decide) ctx l⟩, trivial, trivial⟩
  · rfl

theorem parse?_commands (ctx : Context) (kinds : List Command) :
    Json.parse? (text (commands ctx kinds)) = some (commands ctx kinds) := by
  apply Json.parse?_pretty
  · exact ⟨by decide,
      ⟨by decide, Json.fitItems_map fun c _ => fits_commandEntry (by decide) ctx c⟩, trivial,
        trivial, trivial⟩
  · rfl

/-! ### What they name -/

theorem file?_ruleEntry (ctx : Context) (l : Level) :
    file? (ruleEntry ctx l) = some (l.fileName, Layout.rule l) := rfl

theorem file?_commandEntry (ctx : Context) (c : Command) :
    file? (commandEntry ctx c) = some (c.fileName, Layout.command c) := rfl

/-- What is read item by item is read as a whole. -/
theorem mapM_map_of_eq_some {α β γ : Type} {f : α → β} {g : β → Option γ} {k : α → γ}
    (h : ∀ x, g (f x) = some (k x)) (xs : List α) : (xs.map f).mapM g = some (xs.map k) := by
  induction xs with
  | nil => rfl
  | cons x xs ih =>
    rw [List.map_cons, List.mapM_cons, h, ih]
    rfl

/-- The list of the rules names the files of its levels, in their order. -/
theorem files?_rules (ctx : Context) (levels : List Level) :
    files? "rules" (text (rules ctx levels)) =
      some (levels.map fun l => (l.fileName, Layout.rule l)) := by
  rw [files?, parse?_rules]
  exact mapM_map_of_eq_some (file?_ruleEntry ctx) levels

/-- The list of the commands names the files of its kinds, in their order. -/
theorem files?_commands (ctx : Context) (kinds : List Command) :
    files? "commands" (text (commands ctx kinds)) =
      some (kinds.map fun c => (c.fileName, Layout.command c)) := by
  rw [files?, parse?_commands]
  exact mapM_map_of_eq_some (file?_commandEntry ctx) kinds

end WorkspaceTemplates.Manifest

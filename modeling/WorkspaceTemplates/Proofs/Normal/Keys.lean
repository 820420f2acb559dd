/-
  WorkspaceTemplates/Proofs/Normal/Keys.lean
  ==========================================
  **A completed context, key by key.**

  Completing a context works in steps, each of which reads what the ones before have
  written.  What comes out can be said without them: every key has the value that the
  context or the table gives it (`base`), apart from the technologies, which the
  languages and frameworks may replace (`workedOut`), and from the networking facts,
  which stand as one text (`writtenOut`).
-/
import Mathlib.Data.List.ReduceOption
import WorkspaceTemplates.Proofs.Normal

namespace WorkspaceTemplates.Normal

/-! ### The values of a completed context -/

/-- What a key has before anything is worked out: its own value unless that is null, else its first
default in the table, else what the context has. -/
def base (ctx : Context) (defaults : Defaults) (key : String) : Option Value :=
  ((ctx.get? key).filter fun v => !v.isNull).or
    (((defaults.get? key).map DefaultValue.toValue).or (ctx.get? key))

/-- The items of an entry; an entry that is no list has none. -/
def items : Option Value → List String
  | some (.list names) => names
  | _ => []

/-- The technologies, named where the entry for them tells nothing and there is something to
name. -/
def workedOut (technologies languages frameworks : Option Value) : Option Value :=
  if (technologies = none ∨ technologies = some (.text "Unknown")) ∧
      (items languages ≠ [] ∨ items frameworks ≠ []) then
    some (.text (", ".intercalate
      ((items languages).map Text.capitalize ++ (items frameworks).map frameworkName)))
  else technologies

/-- The parts of the text for a map of networking facts, each of which may be left out. -/
def networkingParts (net : List (String × Value)) : List String :=
  [((net.lookup "ports").filter fun v => !v.isEmpty).map fun v => "Ports: " ++ v.plain,
    ((net.lookup "networks").filter fun v => !v.isEmpty).map fun v => "Networks: " ++ v.plain,
    (net.lookup "reverse_proxy").map fun v =>
      "Reverse Proxy: " ++ if v.isNull then "None" else v.plain].reduceOption

/-- The networking facts, as one text where they are a map with entries. -/
def writtenOut (entry : Option Value) : Option Value :=
  match entry.bind Value.map? with
  | some (e :: net) =>
    let parts := networkingParts (e :: net)
    some (.text (if parts = [] then "None" else "; ".intercalate parts))
  | _ => entry

section Steps

variable {ctx : Context} {defaults : Defaults} {key : String}

/-! ### What each step makes of them -/

theorem get?_fillAll_eq_base : (fillAll ctx defaults).get? key = base ctx defaults key := by
  rw [get?_fillAll, base, isMissing]
  cases ctx.get? key with
  | none => rfl
  | some v =>
    show (if v.isNull = true then _ else _) = _
    rw [Option.filter_some]
    cases v.isNull with
    | true => rfl
    | false => rfl

theorem technologiesUnset_iff :
    technologiesUnset ctx = true ↔
      ctx.get? "technologies" = none ∨ ctx.get? "technologies" = some (.text "Unknown") := by
  rw [technologiesUnset]
  cases ctx.get? "technologies" with
  | none => simp
  | some v => cases v <;> simp [Value.text?, Value.ofDictionary, Defaults.unknownTechnologies]

theorem getD_list? : (ctx.list? key).getD [] = items (ctx.get? key) := by
  rw [Context.list?]
  cases ctx.get? key with
  | none => rfl
  | some v => cases v <;> rfl

theorem technologies?_eq :
    technologies? ctx =
      if items (ctx.get? "languages") ≠ [] ∨ items (ctx.get? "frameworks") ≠ [] then
        some (", ".intercalate ((items (ctx.get? "languages")).map Text.capitalize ++
          (items (ctx.get? "frameworks")).map frameworkName))
      else none := by
  rw [technologies?, getD_list?, getD_list?]
  split
  · rename_i hlanguages hframeworks
    rw [hlanguages, hframeworks]
    rfl
  · rename_i hne
    rw [if_pos (not_and_or.1 fun h => hne h.1 h.2)]

theorem get?_deriveTechnologies_eq :
    (deriveTechnologies ctx).get? "technologies" =
      workedOut (ctx.get? "technologies") (ctx.get? "languages") (ctx.get? "frameworks") := by
  rw [get?_technologies, workedOut, technologies?_eq, ite_and]
  simp only [technologiesUnset_iff]
  split
  · split
    · rfl
    · rfl
  · rfl

theorem labelled_eq (label : String) (entry : Option Value) :
    labelled label entry =
      ((entry.filter fun v => !v.isEmpty).map fun v => label ++ v.plain).toList := by
  cases entry with
  | none => rfl
  | some v =>
    rw [labelled, Option.filter_some]
    cases v.isEmpty with
    | true => rfl
    | false => rfl

theorem reverseProxy_eq (entry : Option Value) :
    reverseProxy entry =
      (entry.map fun v => "Reverse Proxy: " ++ if v.isNull then "None" else v.plain).toList := by
  cases entry with
  | none => rfl
  | some v => cases v <;> rfl

theorem reduceOption_triple {α : Type} (a b c : Option α) :
    [a, b, c].reduceOption = a.toList ++ b.toList ++ c.toList := by
  cases a <;> cases b <;> cases c <;> rfl

theorem networkingText_eq (net : List (String × Value)) :
    networkingText net =
      if networkingParts net = [] then "None" else "; ".intercalate (networkingParts net) := by
  have hparts : labelled "Ports: " (net.lookup "ports") ++
      labelled "Networks: " (net.lookup "networks") ++ reverseProxy (net.lookup "reverse_proxy") =
        networkingParts net := by
    rw [networkingParts, reduceOption_triple, labelled_eq, labelled_eq, reverseProxy_eq]
  rw [networkingText, hparts]
  simp only [List.isEmpty_iff]

theorem map_collapsed (entry : Option Value) : entry.map collapsed = writtenOut entry := by
  cases entry with
  | none => rfl
  | some v =>
    rw [Option.map_some, collapsed, writtenOut, Option.bind_some]
    rcases v.map? with _ | _ | ⟨e, net⟩
    · rfl
    · rfl
    · simp only [networkingText_eq]

end Steps

/-! ### The completed context -/

/-- **A completed context, key by key.**  The technologies are worked out from the languages and
frameworks, the networking facts are written out, and every other key keeps its base value. -/
theorem get?_normalize_eq (ctx : Context) (defaults : Defaults) (key : String) :
    (normalize ctx defaults).get? key =
      if key = "technologies" then
        workedOut (base ctx defaults "technologies") (base ctx defaults "languages")
          (base ctx defaults "frameworks")
      else if key = "networking" then writtenOut (base ctx defaults "networking")
      else base ctx defaults key := by
  by_cases htechnologies : key = "technologies"
  · rw [if_pos htechnologies, htechnologies, normalize, get?_collapseNetworking (by decide),
      get?_deriveTechnologies_eq, get?_fillAll_eq_base, get?_fillAll_eq_base, get?_fillAll_eq_base]
  · rw [if_neg htechnologies]
    by_cases hnetworking : key = "networking"
    · rw [if_pos hnetworking, hnetworking, normalize, get?_networking,
        get?_deriveTechnologies (by decide), get?_fillAll_eq_base, map_collapsed]
    · rw [if_neg hnetworking, get?_normalize htechnologies hnetworking, get?_fillAll_eq_base]

/-- Technologies that are null without a default for them are not worked out. -/
example : (normalize (Dictionary.ofList [("technologies", .null), ("languages", .list ["go"])])
    []).get? "technologies" = some .null := by decide +kernel

end WorkspaceTemplates.Normal

/-
  WorkspaceTemplates/Proofs/Normal.lean
  =====================================
  **Completing a context once is enough.**

  Each of the three steps leaves alone what it finds done: a key that has a value, a
  text of technologies that is the one it would derive, networking facts that are
  already a text.  A context in which all of this is done is `Settled`; completing a
  context settles it (`settled_normalize`) and changes no settled context
  (`Settled.normalize_eq`).
-/
import WorkspaceTemplates.Normal

namespace WorkspaceTemplates

/-! ### Keys with a value -/

theorem Entries.mem_of_lookup {α : Type} {k : String} {v : α} {es : List (String × α)}
    (h : es.lookup k = some v) : (k, v) ∈ es := by
  obtain ⟨before, after, rfl, -⟩ := List.lookup_eq_some_iff.1 h
  simp

theorem Entries.insert_of_lookup {α : Type} {k : String} {v : α} {es : List (String × α)}
    (hs : Sorted es) (h : es.lookup k = some v) : insert k v es = es := by
  induction es with
  | nil => cases h
  | cons p es ih =>
    obtain ⟨k', v'⟩ := p
    obtain ⟨hfirst, hrest⟩ := List.pairwise_cons.1 hs
    rw [Dictionary.lookup_cons] at h
    rw [insert]
    split at h
    · rename_i heq
      subst heq
      rw [if_neg (String.lt_irrefl k), if_pos rfl, Option.some.inj h]
    · rename_i hne
      -- a key that comes later is larger than the first one
      have hlt : ¬ k < k' := String.lt_asymm (hfirst (k, v) (mem_of_lookup h))
      rw [if_neg hlt, if_neg hne, ih hrest h]

theorem Dictionary.insert_of_get? {α : Type} {d : Dictionary α} {k : String} {v : α}
    (h : d.get? k = some v) : d.insert k v = d :=
  Dictionary.ext (Entries.insert_of_lookup d.sorted h)

namespace Normal

section Normalize

variable {ctx : Context} {defaults : Defaults} {key : String}

/-! ### Missing keys -/

theorem isMissing_insert {v : Value} (hv : v.isNull = false) (k : String) :
    isMissing (ctx.insert k v) key = (isMissing ctx key && key != k) := by
  simp only [isMissing, Dictionary.get?_insert]
  by_cases h : key = k
  · simp [h, hv]
  · simp [h]

theorem isNull_toValue (v : DefaultValue) : v.toValue.isNull = false := by
  cases v <;> rfl

theorem isMissing_fill (entry : String × DefaultValue) :
    isMissing (fill ctx entry) key = (isMissing ctx key && key != entry.1) := by
  rw [fill]
  split
  · exact isMissing_insert (isNull_toValue _) _
  · rename_i hset
    by_cases h : key = entry.1
    · subst h
      simpa using hset
    · simp [h]

/-- A key is missing from a filled context when it was missing and has no default. -/
theorem isMissing_fillAll :
    isMissing (fillAll ctx defaults) key =
      (isMissing ctx key && !(defaults.map (·.1)).contains key) := by
  induction defaults generalizing ctx with
  | nil => simp [fillAll]
  | cons entry defaults ih =>
    have hrest : fillAll ctx (entry :: defaults) = fillAll (fill ctx entry) defaults := rfl
    rw [hrest, ih, isMissing_fill]
    simp [Bool.and_assoc, bne]

/-- Filling in one entry sets its own key, if that is missing, and no other. -/
theorem get?_fill (entry : String × DefaultValue) :
    (fill ctx entry).get? key =
      if key = entry.1 ∧ isMissing ctx key = true then some entry.2.toValue else ctx.get? key := by
  rw [fill]
  by_cases hkey : key = entry.1
  · subst hkey
    cases hmissing : isMissing ctx entry.1 with
    | true => simp [Dictionary.get?_insert]
    | false => simp
  · cases isMissing ctx entry.1 with
    | true => simp [Dictionary.get?_insert, hkey]
    | false => simp [hkey]

/-- A missing key gets the first default of the table for it; any other key is left alone. -/
theorem get?_fillAll :
    (fillAll ctx defaults).get? key =
      if isMissing ctx key = true then
        ((defaults.get? key).map DefaultValue.toValue).or (ctx.get? key)
      else ctx.get? key := by
  induction defaults generalizing ctx with
  | nil =>
    show ctx.get? key = if isMissing ctx key = true then ctx.get? key else ctx.get? key
    rw [ite_self]
  | cons entry defaults ih =>
    obtain ⟨k, v⟩ := entry
    have hrest : fillAll ctx ((k, v) :: defaults) = fillAll (fill ctx (k, v)) defaults := rfl
    have hdefault : Defaults.get? ((k, v) :: defaults) key =
        if key = k then some v else Defaults.get? defaults key :=
      Dictionary.lookup_cons key k v defaults
    rw [hrest, ih, isMissing_fill, get?_fill, hdefault]
    by_cases hkey : key = k
    · -- its own entry has filled the key already, so later entries of it are passed over
      subst hkey
      simp
    · simp [hkey]

theorem isMissing_deriveTechnologies (h : isMissing ctx key = false) :
    isMissing (deriveTechnologies ctx) key = false := by
  rw [deriveTechnologies]
  split
  · split
    · rw [isMissing_insert rfl, h, Bool.false_and]
    · exact h
  · exact h

theorem isMissing_collapseNetworking (h : isMissing ctx key = false) :
    isMissing (collapseNetworking ctx) key = false := by
  rw [collapseNetworking]
  split
  · rw [isMissing_insert rfl, h, Bool.false_and]
  · exact h

/-- A completed context has a value for every key with a default. -/
theorem isMissing_normalize (h : key ∈ defaults.map (·.1)) :
    isMissing (normalize ctx defaults) key = false := by
  apply isMissing_collapseNetworking
  apply isMissing_deriveTechnologies
  rw [isMissing_fillAll]
  simp [h]

theorem contains_of_isMissing (h : isMissing ctx key = false) : ctx.contains key = true := by
  rw [isMissing] at h
  rw [Dictionary.contains]
  split at h
  · cases h
  · rename_i v hv
    rw [hv]
    rfl

/-! ### Settled contexts -/

/-- Nothing is left to complete by a table of defaults. -/
structure Settled (ctx : Context) (defaults : Defaults) : Prop where
  filled : ∀ entry ∈ defaults, isMissing ctx entry.1 = false
  technologies : technologiesUnset ctx = true → ∀ t, technologies? ctx = some t →
    ctx.get? "technologies" = some (.text t)
  networking : ∀ e net, ctx.map? "networking" ≠ some (e :: net)

theorem fillAll_eq_of_filled (h : ∀ entry ∈ defaults, isMissing ctx entry.1 = false) :
    fillAll ctx defaults = ctx := by
  induction defaults with
  | nil => rfl
  | cons entry defaults ih =>
    rw [List.forall_mem_cons] at h
    have hfirst : fill ctx entry = ctx := by
      rw [fill, h.1]
      rfl
    show fillAll (fill ctx entry) defaults = ctx
    rw [hfirst]
    exact ih h.2

/-- A settled context is complete. -/
theorem Settled.normalize_eq (h : Settled ctx defaults) : normalize ctx defaults = ctx := by
  have hderive : deriveTechnologies ctx = ctx := by
    rw [deriveTechnologies]
    split
    · rename_i hunset
      split
      · rename_i t ht
        exact Dictionary.insert_of_get? (h.technologies hunset t ht)
      · rfl
    · rfl
  have hcollapse : collapseNetworking ctx = ctx := by
    rw [collapseNetworking]
    split
    · rename_i e net hmap
      exact absurd hmap (h.networking e net)
    · rfl
  rw [normalize, fillAll_eq_of_filled h.filled, hderive, hcollapse]

/-! ### Completing settles -/

theorem get?_deriveTechnologies (h : key ≠ "technologies") :
    (deriveTechnologies ctx).get? key = ctx.get? key := by
  rw [deriveTechnologies]
  split
  · split
    · rw [Dictionary.get?_insert, if_neg h]
    · rfl
  · rfl

theorem get?_collapseNetworking (h : key ≠ "networking") :
    (collapseNetworking ctx).get? key = ctx.get? key := by
  rw [collapseNetworking]
  split
  · rw [Dictionary.get?_insert, if_neg h]
  · rfl

/-- Apart from the two keys that are worked out, completing a context fills it and no more. -/
theorem get?_normalize (htechnologies : key ≠ "technologies") (hnetworking : key ≠ "networking") :
    (normalize ctx defaults).get? key = (fillAll ctx defaults).get? key := by
  rw [normalize, get?_collapseNetworking hnetworking, get?_deriveTechnologies htechnologies]

theorem technologies?_congr {ctx' : Context}
    (hlanguages : ctx'.get? "languages" = ctx.get? "languages")
    (hframeworks : ctx'.get? "frameworks" = ctx.get? "frameworks") :
    technologies? ctx' = technologies? ctx := by
  rw [technologies?, technologies?, Context.list?, Context.list?, Context.list?, Context.list?,
    hlanguages, hframeworks]

/-- Where nothing is known about the technologies, they are derived if there is anything to. -/
theorem get?_technologies :
    (deriveTechnologies ctx).get? "technologies" =
      if technologiesUnset ctx = true then
        ((technologies? ctx).map Value.text).or (ctx.get? "technologies")
      else ctx.get? "technologies" := by
  rw [deriveTechnologies]
  split
  · split
    · rename_i t ht
      rw [Dictionary.get?_insert, if_pos rfl, ht]
      rfl
    · rename_i hnone
      rw [hnone]
      rfl
  · rfl

/-- A value of `networking` as it stands in a completed context. -/
def collapsed (v : Value) : Value :=
  match v.map? with
  | some (e :: net) => .text (networkingText (e :: net))
  | _ => v

theorem get?_networking :
    (collapseNetworking ctx).get? "networking" = (ctx.get? "networking").map collapsed := by
  rw [collapseNetworking, Context.map?]
  cases hv : ctx.get? "networking" with
  | none => exact hv
  | some v =>
    rw [Option.bind_some, Option.map_some, collapsed]
    rcases v.map? with _ | _ | ⟨e, net⟩
    · exact hv
    · exact hv
    · rw [Dictionary.get?_insert, if_pos rfl]

theorem technologies_of_deriveTechnologies
    (h : technologiesUnset (deriveTechnologies ctx) = true) {t : String}
    (ht : technologies? (deriveTechnologies ctx) = some t) :
    (deriveTechnologies ctx).get? "technologies" = some (.text t) := by
  rw [technologies?_congr (get?_deriveTechnologies (by decide))
    (get?_deriveTechnologies (by decide))] at ht
  rw [deriveTechnologies] at h ⊢
  split
  · simp only [ht, Dictionary.get?_insert, if_true]
  · rename_i hset
    rw [if_neg hset] at h
    exact absurd h hset

theorem map?_collapseNetworking (e : String × Value) (net : List (String × Value)) :
    (collapseNetworking ctx).map? "networking" ≠ some (e :: net) := by
  rw [collapseNetworking]
  split
  · simp [Context.map?, Dictionary.get?_insert, Value.map?]
  · rename_i hother
    exact hother e net

/-- **Completing a context settles it.** -/
theorem settled_normalize (ctx : Context) (defaults : Defaults) :
    Settled (normalize ctx defaults) defaults where
  filled entry hentry := isMissing_normalize (List.mem_map_of_mem hentry)
  technologies := by
    have htechnologies : (normalize ctx defaults).get? "technologies" =
        (deriveTechnologies (fillAll ctx defaults)).get? "technologies" :=
      get?_collapseNetworking (by decide)
    intro hunset t ht
    rw [normalize, technologies?_congr (get?_collapseNetworking (by decide))
      (get?_collapseNetworking (by decide))] at ht
    rw [technologiesUnset, htechnologies] at hunset
    rw [htechnologies]
    exact technologies_of_deriveTechnologies hunset ht
  networking := map?_collapseNetworking

/-- Completing a completed context changes nothing. -/
theorem normalize_normalize (ctx : Context) (defaults : Defaults) :
    normalize (normalize ctx defaults) defaults = normalize ctx defaults :=
  (settled_normalize ctx defaults).normalize_eq

/-! ### What a completed context depends on -/

section Agreement

variable {ctx' : Context}

theorem get?_fillAll_congr (h : ctx.get? key = ctx'.get? key) :
    (fillAll ctx defaults).get? key = (fillAll ctx' defaults).get? key := by
  have hmissing : isMissing ctx key = isMissing ctx' key := by rw [isMissing, isMissing, h]
  rw [get?_fillAll, get?_fillAll, hmissing, h]

/-- The value of a key in a completed context depends on its value before, and for the technologies
on the languages and frameworks besides. -/
theorem get?_normalize_congr (h : ctx.get? key = ctx'.get? key)
    (htechnologies : key = "technologies" →
      ctx.get? "languages" = ctx'.get? "languages" ∧
        ctx.get? "frameworks" = ctx'.get? "frameworks") :
    (normalize ctx defaults).get? key = (normalize ctx' defaults).get? key := by
  have hfilled := @get?_fillAll_congr ctx defaults key ctx' h
  by_cases htech : key = "technologies"
  · subst htech
    obtain ⟨hlanguages, hframeworks⟩ := htechnologies rfl
    have hderived : technologies? (fillAll ctx defaults) = technologies? (fillAll ctx' defaults) :=
      technologies?_congr (get?_fillAll_congr hlanguages) (get?_fillAll_congr hframeworks)
    have hne : ("technologies" : String) ≠ "networking" := by decide
    rw [normalize, normalize, get?_collapseNetworking hne, get?_collapseNetworking hne,
      get?_technologies, get?_technologies, technologiesUnset, technologiesUnset, hfilled, hderived]
  · by_cases hnet : key = "networking"
    · subst hnet
      rw [normalize, normalize, get?_networking, get?_networking, get?_deriveTechnologies htech,
        get?_deriveTechnologies htech, hfilled]
    · rw [get?_normalize htech hnet, get?_normalize htech hnet, hfilled]

theorem contains_fillAll :
    (fillAll ctx defaults).contains key = (ctx.contains key || (defaults.get? key).isSome) := by
  rw [Dictionary.contains, Dictionary.contains, get?_fillAll]
  split
  · rw [Option.isSome_or, Option.isSome_map, Bool.or_comm]
  · rename_i hset
    have hcontains : ctx.contains key = true :=
      contains_of_isMissing (Bool.eq_false_iff.2 hset)
    rw [Dictionary.contains] at hcontains
    rw [hcontains, Bool.true_or]

/-- With a default for the technologies, completing a context adds the keys of the table to its
own, and no others. -/
theorem contains_normalize (h : (defaults.get? "technologies").isSome = true) :
    (normalize ctx defaults).contains key =
      (ctx.contains key || (defaults.get? key).isSome) := by
  rw [← contains_fillAll, Dictionary.contains, Dictionary.contains]
  by_cases htech : key = "technologies"
  · subst htech
    have hfilled : ((fillAll ctx defaults).get? "technologies").isSome = true := by
      have hcontains := @contains_fillAll ctx defaults "technologies"
      rw [h, Bool.or_true] at hcontains
      exact hcontains
    rw [normalize, get?_collapseNetworking (by decide), get?_technologies]
    split
    · rw [Option.isSome_or, hfilled, Bool.or_true]
    · rfl
  · by_cases hnet : key = "networking"
    · subst hnet
      rw [normalize, get?_networking, Option.isSome_map, get?_deriveTechnologies htech]
    · rw [get?_normalize htech hnet]

end Agreement

end Normalize

end Normal

end WorkspaceTemplates

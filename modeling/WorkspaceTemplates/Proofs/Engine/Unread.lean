/-
  WorkspaceTemplates/Proofs/Engine/Unread.lean
  ============================================
  **A value that a template does not ask for does not show.**

  A template asks for the value of a key in two ways: a placeholder resolves to the
  key (`Engine.Shows`), or a region has a condition that reads it (`Region.Reads`).
  Everything else that rendering learns of a context is which keys it has, and with
  the standard tables a completed context has the same keys whatever the values are.
  The one detour is through `technologies`, which is worked out from the languages
  and the frameworks.
-/
import WorkspaceTemplates.Engine
import WorkspaceTemplates.Proofs.Normal
import WorkspaceTemplates.Proofs.Token.Replace

namespace WorkspaceTemplates

variable {ctx ctx' : Context}

/-! ### The key that a condition reads -/

namespace Condition

/-- The key whose value decides whether a condition holds. -/
def key : Condition → String
  | python | javascript | go | rust => "primary_language"
  | fastapi | django | flask | react | nextjs | express | nestjs => "framework"
  | microservices | monorepo | spa | api | fullStack | cli => "project_type"
  | docker => "containerization"
  | kubernetes => "orchestration"
  | aws | azure | gcp | vercel | netlify | heroku => "cloud_platforms"

/-- The key that the condition of a name reads; an unknown name reads none. -/
def keyOf? (text : String) : Option String := (ofName? text).map key

theorem key_ne_technologies (c : Condition) : c.key ≠ "technologies" := by
  cases c <;> decide

theorem hasText_congr {key : String} (h : ctx.get? key = ctx'.get? key) (expected : String) :
    ctx.hasText key expected = ctx'.hasText key expected := by
  rw [Context.hasText, Context.hasText, Context.text?, Context.text?, h]

theorem mentions_congr {key : String} (h : ctx.get? key = ctx'.get? key) (word : String) :
    mentions ctx key word = mentions ctx' key word := by
  rw [mentions, mentions, h]

/-- A condition depends on the value of its key only. -/
theorem holds_congr {c : Condition} (h : ctx.get? c.key = ctx'.get? c.key) :
    c.holds ctx = c.holds ctx' := by
  cases c with
  | javascript =>
    rw [key] at h
    rw [holds, holds, hasText_congr h, hasText_congr h]
  | docker | kubernetes | aws | azure | gcp | vercel | netlify | heroku => exact mentions_congr h _
  | _ => exact hasText_congr h _

theorem evaluate_congr {text : String} (h : ∀ key ∈ keyOf? text, ctx.get? key = ctx'.get? key) :
    evaluate ctx text = evaluate ctx' text := by
  rw [evaluate, evaluate]
  cases hc : ofName? text with
  | none => rfl
  | some c =>
    have hkey : c.key ∈ keyOf? text := by
      rw [keyOf?, hc]
      rfl
    exact holds_congr (h c.key hkey)

end Condition

/-! ### The regions of a template -/

namespace Region

/-- The names of the regions of a text, in order.  Bodies are not looked into. -/
def names (s : List Char) : List String :=
  match s with
  | [] => []
  | c :: rest =>
    match _h : matchAt? (c :: rest) with
    | some (name, _, after) => String.ofList name :: names after
    | none => names rest
termination_by s.length
decreasing_by
  · exact length_of_matchAt? ‹_›
  · simp

/-- Some region of a template has a condition that reads a key. -/
def Reads (template key : String) : Prop :=
  ∃ name ∈ names template.toList, Condition.keyOf? name = some key

instance (template key : String) : Decidable (Reads template key) :=
  inferInstanceAs (Decidable (∃ name ∈ names template.toList, _))

/-- Resolving the regions of a text asks for its own regions only. -/
theorem resolve_congr {keep keep' : String → Bool} {s : List Char}
    (h : ∀ name ∈ names s, keep name = keep' name) : resolve keep s = resolve keep' s := by
  fun_induction names s with
  | case1 => rw [resolve, resolve]
  | case2 c rest name body after hm ih =>
    have hname := h _ List.mem_cons_self
    have hafter := ih fun n hn => h n (List.mem_cons_of_mem _ hn)
    rw [resolve, resolve]
    split
    · rename_i hm'
      rw [hm] at hm'
      cases hm'
      rw [hname, hafter]
    · rename_i hm'
      rw [hm] at hm'
      cases hm'
  | case3 c rest hm ih =>
    rw [resolve, resolve]
    split
    · rename_i hm'
      rw [hm] at hm'
      cases hm'
    · rw [ih h]

/-- Contexts that agree on the keys that the regions of a template read process it alike. -/
theorem process_congr {template : String}
    (h : ∀ key, Reads template key → ctx.get? key = ctx'.get? key) :
    process template ctx = process template ctx' := by
  rw [process, process, resolve_congr]
  intro name hname
  apply Condition.evaluate_congr
  intro key hkey
  exact h key ⟨name, hname, hkey⟩

end Region

/-! ### The placeholders of a template -/

/-- Replacing tokens asks for the names of the text's own tokens only. -/
theorem Token.replaceAll_congr {f g : List Char → List Char} {s : List Char}
    (h : ∀ name, Occurs name s → f name = g name) : replaceAll [] f s = replaceAll [] g s := by
  fun_induction replaceAll [] f s with
  | case1 => rw [replaceAll]
  | case2 c rest name after hm ih =>
    obtain ⟨text, htext, hs⟩ := matchAt?_nil_eq_some_iff.1 hm
    have hname : Occurs name (c :: rest) := occurs_cons_iff.2 (.inl ⟨after, hm⟩)
    have hsuffix : after <:+: c :: rest := by
      rw [hs]
      exact (List.suffix_append text after).isInfix
    rw [replaceAll_of_matchAt? hm, h name hname, ih fun n hn => h n (hn.mono hsuffix)]
  | case3 c rest hm ih =>
    rw [replaceAll_of_matchAt?_eq_none hm,
      ih fun n hn => h n (hn.mono (List.suffix_cons c rest).isInfix)]

/-- Which key a name stands for depends on the keys of the context only. -/
theorem Lookup.key?_congr {aliases : Aliases} {name : String}
    (h : ∀ key, ctx.contains key = ctx'.contains key) :
    key? aliases name ctx = key? aliases name ctx' := by
  have hcontains : ctx.contains = ctx'.contains := funext h
  rw [key?, key?, hcontains]

namespace Engine

/-- Some placeholder that conditional processing leaves in a template stands for a key. -/
def Shows (e : Engine) (template : String) (ctx : Context) (key : String) : Prop :=
  ∃ name ∈ Token.names (Region.process template (e.normalize ctx)),
    Token.isConditional name = false ∧
      Lookup.key? e.aliases name (e.normalize ctx) = some key

instance (e : Engine) (template : String) (ctx : Context) (key : String) :
    Decidable (Shows e template ctx key) :=
  inferInstanceAs (Decidable (∃ name ∈ Token.names _, _))

variable {e : Engine} {template : String}

/-- Contexts with the same keys that agree on what a template reads and shows render it alike. -/
theorem render_congr
    (hcontains : ∀ key, (e.normalize ctx).contains key = (e.normalize ctx').contains key)
    (hreads : ∀ key, Region.Reads template key →
      (e.normalize ctx).get? key = (e.normalize ctx').get? key)
    (hshows : ∀ key, Shows e template ctx key →
      (e.normalize ctx).get? key = (e.normalize ctx').get? key) :
    e.render template ctx = e.render template ctx' := by
  have hkey (name : String) : Lookup.key? e.aliases name (e.normalize ctx) =
      Lookup.key? e.aliases name (e.normalize ctx') := Lookup.key?_congr hcontains
  have hlacks : e.lacksValue (e.normalize ctx) = e.lacksValue (e.normalize ctx') := by
    funext name
    rw [lacksValue, lacksValue, hkey]
  have hfill : Token.replaceAll [] (e.substitute (e.normalize ctx))
        (Region.process template (e.normalize ctx)).toList =
      Token.replaceAll [] (e.substitute (e.normalize ctx'))
        (Region.process template (e.normalize ctx)).toList := by
    apply Token.replaceAll_congr
    intro name hname
    rw [substitute, substitute]
    split
    · rfl
    · rename_i hplain
      rw [Lookup.resolve?, Lookup.resolve?, ← hkey]
      cases hk : Lookup.key? e.aliases (String.ofList name) (e.normalize ctx) with
      | none => rfl
      | some key =>
        have hshown : Shows e template ctx key := by
          refine ⟨String.ofList name, ?_, by simpa using hplain, hk⟩
          rw [Token.mem_names_iff, String.toList_ofList]
          exact hname
        simp only [Option.bind_some, hshows key hshown]
  rw [render, render, fillIn, fillIn, ← Region.process_congr hreads, hfill, hlacks]

/-- **A value that is neither shown nor read does not matter.**  With the standard tables, setting
a key to one value or to another renders a template alike, if no placeholder of the processed
template stands for the key, no region has a condition that reads it, and, for the languages and
frameworks, no placeholder stands for the technologies. -/
theorem render_insert_of_unread (template : String) (ctx : Context) (key : String) (v v' : Value)
    (hshows : ¬ Shows standard template (ctx.insert key v) key)
    (hreads : ¬ Region.Reads template key)
    (htechnologies : (key ≠ "languages" ∧ key ≠ "frameworks") ∨
      ¬ Shows standard template (ctx.insert key v) "technologies") :
    standard.render template (ctx.insert key v) =
      standard.render template (ctx.insert key v') := by
  have hother {k : String} (hk : k ≠ key) :
      (ctx.insert key v).get? k = (ctx.insert key v').get? k := by
    rw [Dictionary.get?_insert, Dictionary.get?_insert, if_neg hk, if_neg hk]
  have htable : (standard.defaults.get? "technologies").isSome = true := rfl
  apply render_congr
  · intro k
    rw [normalize, normalize, Normal.contains_normalize htable, Normal.contains_normalize htable,
      Dictionary.contains, Dictionary.contains, Dictionary.get?_insert, Dictionary.get?_insert]
    split <;> rfl
  · rintro k ⟨name, hname, hk⟩
    obtain ⟨c, -, rfl⟩ := Option.map_eq_some_iff.1 hk
    apply Normal.get?_normalize_congr
    · apply hother
      rintro rfl
      exact hreads ⟨name, hname, hk⟩
    · exact fun h => absurd h c.key_ne_technologies
  · intro k hk
    have hne : k ≠ key := by
      rintro rfl
      exact hshows hk
    refine Normal.get?_normalize_congr (hother hne) ?_
    rintro rfl
    rcases htechnologies with ⟨hlanguages, hframeworks⟩ | hnone
    · exact ⟨hother (Ne.symm hlanguages), hother (Ne.symm hframeworks)⟩
    · exact absurd hk hnone

/-- A template that shows the framework, and the frameworks as a list or as null: only the text of
the technologies, which it does not show, is worked out from them. -/
theorem render_insert_of_unread_frameworks :
    let template := "<PLACEHOLDER: IF_DJANGO>D<PLACEHOLDER: ENDIF_DJANGO><PLACEHOLDER: FRAMEWORK>" ++
      "<PLACEHOLDER: NETWORKING><PLACEHOLDER: TEAM_SIZE>"
    let ctx : Context := Dictionary.ofList [("framework", .text "django"), ("teamSize", .int 4),
      ("networking", .ofDictionary (Dictionary.ofList [("ports", .list ["80"])]))]
    ¬ Shows standard template (ctx.insert "frameworks" (.list ["django"])) "frameworks" ∧
      ¬ Region.Reads template "frameworks" ∧
      ¬ Shows standard template (ctx.insert "frameworks" (.list ["django"])) "technologies" ∧
      standard.render template (ctx.insert "frameworks" (.list ["django"])) =
        standard.render template (ctx.insert "frameworks" .null) := by
  intro template ctx
  have hshows : ¬ Shows standard template (ctx.insert "frameworks" (.list ["django"]))
      "frameworks" := by decide +kernel
  have hreads : ¬ Region.Reads template "frameworks" := by decide +kernel
  have htechnologies : ¬ Shows standard template (ctx.insert "frameworks" (.list ["django"]))
      "technologies" := by decide +kernel
  exact ⟨hshows, hreads, htechnologies,
    render_insert_of_unread template ctx _ _ _ hshows hreads (.inr htechnologies)⟩

end Engine

end WorkspaceTemplates

/-
  WorkspaceTemplates/Region.lean
  ==============================
  **Conditional regions.**

  A token `IF_X` and the nearest later token `ENDIF_X` of exactly the same name
  enclose a region.  Its body is kept as it stands when the condition `X` holds
  and dropped otherwise; bodies are not looked into, so regions do not nest.  An
  opening token without a partner is kept by `resolve` and removed by `strip`,
  which makes one pass over the resulting text.
-/
import WorkspaceTemplates.Condition
import WorkspaceTemplates.Token

namespace WorkspaceTemplates.Region

/-- Look for the nearest closing token of a name; give the text before it and after it. -/
def untilClosed? (name : List Char) : List Char → Option (List Char × List Char)
  | [] => none
  | c :: rest =>
    let later := (untilClosed? name rest).map fun (body, after) => (c :: body, after)
    match Token.matchAt? Token.endifTag (c :: rest) with
    -- a closing token of another name belongs to the body
    | some (n, after) => if n = name then some ([], after) else later
    | none => later

theorem length_of_untilClosed? {name s body after : List Char}
    (h : untilClosed? name s = some (body, after)) : after.length < s.length := by
  induction s generalizing body after with
  | nil => simp [untilClosed?] at h
  | cons c rest ih =>
    have later : ∀ {b a}, (untilClosed? name rest).map
        (fun (p : List Char × List Char) => (c :: p.1, p.2)) = some (b, a) →
        a.length < (c :: rest).length := by
      intro b a hl
      obtain ⟨⟨x, y⟩, hx, he⟩ := Option.map_eq_some_iff.1 hl
      cases he
      have := ih hx
      simp only [List.length_cons]; omega
    simp only [untilClosed?] at h
    split at h
    · rename_i hm
      split at h
      · cases h; exact Token.length_of_matchAt? hm
      · exact later h
    · exact later h

/-- Read a whole region at the head of a text; give its name, its body and the text after it. -/
def matchAt? (s : List Char) : Option (List Char × List Char × List Char) :=
  (Token.matchAt? Token.ifTag s).bind fun (name, inside) =>
    (untilClosed? name inside).map fun (body, after) => (name, body, after)

theorem length_of_matchAt? {s name body after : List Char}
    (h : matchAt? s = some (name, body, after)) : after.length < s.length := by
  obtain ⟨⟨n, inside⟩, hm, h⟩ := Option.bind_eq_some_iff.1 h
  obtain ⟨⟨b, a⟩, hc, he⟩ := Option.map_eq_some_iff.1 h
  cases he
  exact Nat.lt_trans (length_of_untilClosed? hc) (Token.length_of_matchAt? hm)

/-- Keep or drop the body of every region, as `keep` says of its name. -/
def resolve (keep : String → Bool) (s : List Char) : List Char :=
  match s with
  | [] => []
  | c :: rest =>
    match _h : matchAt? (c :: rest) with
    | some (name, body, after) =>
      (if keep (String.ofList name) then body else []) ++ resolve keep after
    | none => c :: resolve keep rest
termination_by s.length
decreasing_by
  · exact length_of_matchAt? ‹_›
  · simp

/-- Remove every opening token of a list of characters. -/
def stripChars (s : List Char) : List Char :=
  Token.replaceAll Token.ifTag (fun _ => []) s

def strip (s : String) : String :=
  String.ofList (stripChars s.toList)

/-- Resolve the regions of a template for a context, then remove the opening tokens that are
    left. -/
def process (template : String) (ctx : Context) : String :=
  String.ofList (stripChars (resolve (Condition.evaluate ctx) template.toList))

end WorkspaceTemplates.Region

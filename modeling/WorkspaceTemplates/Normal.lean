/-
  WorkspaceTemplates/Normal.lean
  ==============================
  **Completing a context.**

  `normalize` fills in the defaults of missing and null keys, derives the text of
  `technologies` from the languages and frameworks when nothing else is known of
  it, and writes a map of `networking` out as one text.  Templates are always
  rendered with a completed context.
-/
import WorkspaceTemplates.Context
import WorkspaceTemplates.Defaults
import WorkspaceTemplates.Text.Case

namespace WorkspaceTemplates.Normal

/-! ### Defaults -/

/-- Whether a key is missing from a context or null in it. -/
def isMissing (ctx : Context) (key : String) : Bool :=
  match ctx.get? key with
  | none => true
  | some v => v.isNull

def fill (ctx : Context) (entry : String × DefaultValue) : Context :=
  if isMissing ctx entry.1 then ctx.insert entry.1 entry.2.toValue else ctx

def fillAll (ctx : Context) (defaults : Defaults) : Context :=
  defaults.foldl fill ctx

/-! ### Technologies -/

def frameworkName (framework : String) : String :=
  if framework = "nextjs" then "Next.js"
  else if framework = "nestjs" then "NestJS"
  else Text.capitalize framework

/-- The names of the languages, then of the frameworks; nothing if there are neither. -/
def technologies? (ctx : Context) : Option String :=
  match (ctx.list? "languages").getD [], (ctx.list? "frameworks").getD [] with
  | [], [] => none
  | languages, frameworks =>
    some (", ".intercalate (languages.map Text.capitalize ++ frameworks.map frameworkName))

def technologiesUnset (ctx : Context) : Bool :=
  match ctx.get? "technologies" with
  | none => true
  | some v => v.text? == some Defaults.unknownTechnologies

/-- Derive the technologies where nothing is known about them. -/
def deriveTechnologies (ctx : Context) : Context :=
  if technologiesUnset ctx then
    match technologies? ctx with
    | some t => ctx.insert "technologies" (.text t)
    | none => ctx
  else ctx

/-! ### Networking -/

/-- The labelled text of an entry that carries something. -/
def labelled (label : String) (entry : Option Value) : List String :=
  match entry with
  | some v => if v.isEmpty then [] else [label ++ v.plain]
  | none => []

/-- The labelled text of the reverse proxy, which shows as `None` when it is null. -/
def reverseProxy (entry : Option Value) : List String :=
  match entry with
  | some .null => ["Reverse Proxy: None"]
  | some v => ["Reverse Proxy: " ++ v.plain]
  | none => []

def networkingText (net : List (String × Value)) : String :=
  let parts :=
    labelled "Ports: " (net.lookup "ports") ++ labelled "Networks: " (net.lookup "networks")
      ++ reverseProxy (net.lookup "reverse_proxy")
  if parts.isEmpty then "None" else "; ".intercalate parts

/-- Write a non-empty map of networking facts out as a text. -/
def collapseNetworking (ctx : Context) : Context :=
  match ctx.map? "networking" with
  | some (e :: net) => ctx.insert "networking" (.text (networkingText (e :: net)))
  | _ => ctx

/-! ### The completed context -/

def normalize (ctx : Context) (defaults : Defaults) : Context :=
  collapseNetworking (deriveTechnologies (fillAll ctx defaults))

end WorkspaceTemplates.Normal

/-
  WorkspaceTemplates/Engine.lean
  ==============================
  **Rendering templates.**

  An engine is a table of defaults and a table of aliases.  It renders a template
  by completing the context, resolving the conditional regions, and replacing
  each placeholder that is left by the displayed value it stands for.  A name
  without a value renders as nothing and is reported as missing; `renderStrict`
  refuses such a template.  `check` says beforehand, from the unrendered template,
  which names have no value; `validate` says afterwards which tokens are left.
-/
import WorkspaceTemplates.Lookup
import WorkspaceTemplates.Normal
import WorkspaceTemplates.Region

namespace WorkspaceTemplates

/-- The tables that rendering depends on. -/
structure Engine where
  defaults : Defaults
  aliases : Aliases

/-- A rendered template, and the names that had no value. -/
structure Rendering where
  output : String
  missing : List String
deriving DecidableEq, Repr

def Rendering.isComplete (r : Rendering) : Bool := r.missing.isEmpty

structure Validation where
  remaining : List String
deriving DecidableEq, Repr

def Validation.isComplete (v : Validation) : Bool := v.remaining.isEmpty

/-- The names of a template that have no value in a context. -/
structure ContextCheck where
  missing : List String
deriving DecidableEq, Repr

def ContextCheck.isValid (c : ContextCheck) : Bool := c.missing.isEmpty

namespace Engine

def standard : Engine := ⟨Defaults.standard, Aliases.standard⟩

def normalize (e : Engine) (ctx : Context) : Context :=
  Normal.normalize ctx e.defaults

/-- What a placeholder of a name is replaced by in a completed context. -/
def substitute (e : Engine) (ctx : Context) (name : List Char) : List Char :=
  let n := String.ofList name
  if Token.isConditional n then []
  else ((Lookup.resolve? e.aliases n ctx).getD "").toList

/-- Whether a name should have a value in a completed context and has none. -/
def lacksValue (e : Engine) (ctx : Context) (name : String) : Bool :=
  !Token.isConditional name && (Lookup.key? e.aliases name ctx).isNone

/-- Replace the placeholders of a text whose regions are resolved, in a completed context. -/
def fillIn (e : Engine) (ctx : Context) (text : String) : Rendering where
  output := String.ofList (Token.replaceAll [] (e.substitute ctx) text.toList)
  missing := (Token.names text).filter (e.lacksValue ctx)

def render (e : Engine) (template : String) (ctx : Context) : Rendering :=
  let completed := e.normalize ctx
  e.fillIn completed (Region.process template completed)

/-- Render a template, refusing it when a name has no value; `file` names it in the fault. -/
def renderStrict (e : Engine) (template : String) (ctx : Context) (file : String) :
    Except Fault String :=
  let r := e.render template ctx
  if r.isComplete then .ok r.output else .error (.unresolved file r.missing)

def validate (rendered : String) : Validation := ⟨Token.names rendered⟩

/-- The names of a template, as it stands, that have no value in a context. -/
def check (e : Engine) (template : String) (ctx : Context) : ContextCheck :=
  ⟨(Token.names template).filter (e.lacksValue (e.normalize ctx))⟩

end Engine

end WorkspaceTemplates

/-
  WorkspaceTemplates/Condition.lean
  =================================
  **Conditions on a project.**

  A region of a template may be kept for some projects only.  The vocabulary of
  conditions is fixed; each one asks for a language, a framework or a project
  type by its exact text, or looks for a word in the tools of the project.
-/
import WorkspaceTemplates.Context
import WorkspaceTemplates.Fault
import WorkspaceTemplates.Text.Case
import WorkspaceTemplates.Text.Pieces

namespace WorkspaceTemplates

/-- The conditions that a region may name. -/
inductive Condition where
  | python
  | javascript
  | go
  | rust
  | fastapi
  | django
  | flask
  | react
  | nextjs
  | express
  | nestjs
  | microservices
  | monorepo
  | spa
  | api
  | fullStack
  | cli
  | docker
  | kubernetes
  | aws
  | azure
  | gcp
  | vercel
  | netlify
  | heroku
deriving DecidableEq, Repr

namespace Condition

/-- All conditions, in the order of the vocabulary. -/
def all : List Condition :=
  [.python, .javascript, .go, .rust, .fastapi, .django, .flask, .react, .nextjs, .express,
    .nestjs, .microservices, .monorepo, .spa, .api, .fullStack, .cli, .docker, .kubernetes,
    .aws, .azure, .gcp, .vercel, .netlify, .heroku]

theorem mem_all (c : Condition) : c ∈ all := by cases c <;> decide

def name : Condition → String
  | python => "python"
  | javascript => "javascript"
  | go => "go"
  | rust => "rust"
  | fastapi => "fastapi"
  | django => "django"
  | flask => "flask"
  | react => "react"
  | nextjs => "nextjs"
  | express => "express"
  | nestjs => "nestjs"
  | microservices => "microservices"
  | monorepo => "monorepo"
  | spa => "spa"
  | api => "api"
  | fullStack => "full_stack"
  | cli => "cli"
  | docker => "docker"
  | kubernetes => "kubernetes"
  | aws => "aws"
  | azure => "azure"
  | gcp => "gcp"
  | vercel => "vercel"
  | netlify => "netlify"
  | heroku => "heroku"

/-- The condition of a lower-case name; `typescript` is a second name of `javascript`. -/
def ofLowerName? (n : String) : Option Condition :=
  if n = "typescript" then some .javascript else all.find? (·.name = n)

/-- The condition of a name in any case. -/
def ofName? (text : String) : Option Condition :=
  ofLowerName? (Text.lower text)

def parse (text : String) : Except Fault Condition :=
  match ofName? text with
  | some c => .ok c
  | none => .error (.unknownCondition text)

/-! ### When a condition holds -/

/-- Whether the value of a key, written out in lower case, has a word in it.  A value that
    carries nothing mentions nothing. -/
def mentions (ctx : Context) (key word : String) : Bool :=
  match ctx.get? key with
  | some v => !v.isEmpty && Text.occursIn word.toList (Text.lower v.plain).toList
  | none => false

def holds (ctx : Context) : Condition → Bool
  -- either name of this condition is looked for
  | .javascript =>
    ctx.hasText "primary_language" "javascript" || ctx.hasText "primary_language" "typescript"
  | c@python | c@go | c@rust => ctx.hasText "primary_language" c.name
  | c@fastapi | c@django | c@flask | c@react | c@nextjs | c@express | c@nestjs =>
    ctx.hasText "framework" c.name
  | c@microservices | c@monorepo | c@spa | c@api | c@fullStack | c@cli =>
    ctx.hasText "project_type" c.name
  | docker => mentions ctx "containerization" "docker"
  | kubernetes => mentions ctx "orchestration" "kubernetes"
  | c@aws | c@azure | c@gcp | c@vercel | c@netlify | c@heroku =>
    mentions ctx "cloud_platforms" c.name

/-- Whether the condition of a name holds; an unknown name never does. -/
def evaluate (ctx : Context) (text : String) : Bool :=
  match ofName? text with
  | some c => c.holds ctx
  | none => false

end Condition

end WorkspaceTemplates

/-
  WorkspaceTemplates/Interview/Questions.lean
  ===========================================
  **The questions of an interview.**

  Every question but the first can be left unanswered and then has a default.  A
  menu takes the number of an entry; any other answer takes the entry that the menu
  falls back to, and the entry `other` asks for a text.
-/
import WorkspaceTemplates.Interview.Answers
import WorkspaceTemplates.Interview.Dialogue
import WorkspaceTemplates.Text.Case

namespace WorkspaceTemplates.Interview

open DialogueM

/-! ### Understanding answers -/

/-- The items of a list separated by commas, trimmed, without the empty ones. -/
def splitList (answer : String) : List String :=
  ((Text.pieces ',' answer.toList).map fun p => Text.trim (String.ofList p)).filter fun s =>
    !s.isEmpty

/-- The number that decimal digits with an optional plus sign spell. -/
def number? (s : String) : Option Nat :=
  let digits :=
    match s.toList with
    | '+' :: rest => rest
    | cs => cs
  if !digits.isEmpty && digits.all Char.isDigit then
    some (digits.foldl (fun n c => n * 10 + (c.toNat - '0'.toNat)) 0)
  else none

/-- The canonical text of a port number. -/
def port? (s : String) : Option String :=
  (number? s).bind fun n => if n < 65536 then some n.repr else none

/-- The port numbers of a list, if all its items are some. -/
def ports? (answer : String) : Option (List String) := (splitList answer).mapM port?

def isYes (answer : String) : Bool :=
  let a := Text.lower answer
  a == "yes" || a == "y"

def orDefault (answer standard : String) : String := if answer.isEmpty then standard else answer

/-! ### Menus -/

/-- A question with numbered answers. -/
structure Menu where
  question : String
  /-- What is shown for each answer, and the answer itself. -/
  choices : List (String × String)
  /-- The answer when the number is none of those shown. -/
  fallback : String
  /-- What a text is asked for after the answer `other`. -/
  subject : String

def projectTypes : Menu where
  question := "What type of project is this?"
  choices := [("Microservices", "microservices"), ("Monorepo", "monorepo"),
    ("SPA (Single Page Application)", "spa"), ("API Server", "api"),
    ("Full-stack", "full_stack"), ("CLI Tool", "cli"), ("Other", "other")]
  fallback := "other"
  subject := "project type"

def languages : Menu where
  question := "What is the primary programming language?"
  choices := [("Python", "python"), ("JavaScript", "javascript"), ("TypeScript", "typescript"),
    ("Go", "go"), ("Rust", "rust"), ("Java", "java"), ("Other", "other")]
  fallback := "other"
  subject := "primary language"

def deployments : Menu where
  question := "What is the deployment type?"
  choices := [("Docker", "docker"), ("Kubernetes", "kubernetes"),
    ("Cloud (AWS/GCP/Azure)", "cloud"), ("Serverless", "serverless"),
    ("Local development only", "local"), ("Other", "other")]
  fallback := "local"
  subject := "deployment type"

namespace Menu

def choiceLines : Nat → List (String × String) → List String
  | _, [] => []
  | n, c :: rest => (n.repr ++ ". " ++ c.1) :: choiceLines (n + 1) rest

def choice (m : Menu) (answer : String) : String :=
  match number? answer with
  | some (n + 1) => ((m.choices[n]?).map (·.2)).getD m.fallback
  | _ => m.fallback

def ask (m : Menu) : DialogueM String := do
  sayLine ("\n" ++ m.question)
  sayLines (choiceLines 1 m.choices)
  let value := m.choice (← answer ("Enter choice (1-" ++ m.choices.length.repr ++ "): "))
  if value == "other" then
    return orDefault (← answer ("Please specify " ++ m.subject ++ ": ")) "unknown"
  else return value

end Menu

/-! ### The phases -/

def ruleLine : String := String.ofList (List.replicate 60 '=')

def heading (title : String) : DialogueM Unit :=
  sayLine ("\n" ++ ruleLine ++ "\n" ++ title ++ "\n" ++ ruleLine)

/-- Ask what kind of project this is.  Without a name there is no interview. -/
def askClassification : DialogueM Classification := do
  heading "PHASE 1: Project Classification"
  match ← ask "What is the name of your project? " with
  | none => throw (.cancelled "end of input")
  | some name =>
    if name.isEmpty then throw (.cancelled "project name is required")
    else
      let projectType ← projectTypes.ask
      let language ← languages.ask
      return ⟨name, projectType, language⟩

/-- Ask for details of a framework, given in lower case. -/
def askFramework (framework : String) : DialogueM (List String) := do
  let shown := Text.capitalize framework
  if ["fastapi", "django", "flask"].contains framework then
    sayLine ("\n" ++ shown ++ " detected. Any specific configuration? (press Enter to skip)")
    let config ← answer "Configuration: "
    return if config.isEmpty then [] else [framework ++ " config: " ++ config]
  else if ["react", "nextjs", "vue"].contains framework then
    sayLine ("\n" ++ shown ++ " detected. Using TypeScript? (yes/no, press Enter for no)")
    return if isYes (← answer "TypeScript: ") then ["typescript"] else []
  else if ["express", "nestjs"].contains framework then
    sayLine ("\n" ++ shown ++ " detected. Any specific middleware? (press Enter to skip)")
    let middleware ← answer "Middleware: "
    return if middleware.isEmpty then [] else ["middleware: " ++ middleware]
  else return []

/-- Ask for services, which only some types of projects have. -/
def askServices (projectType : String) : DialogueM (Option (List String)) := do
  if projectType == "microservices" || projectType == "monorepo" then
    sayLine ("\nWhat services/components does this project have? "
      ++ "(comma-separated, or press Enter to skip)")
    return some (splitList (← answer "Services: "))
  else return none

/-- The port that a framework usually listens on. -/
def defaultPort? (framework : String) : Option String :=
  let f := Text.lower framework
  if f == "fastapi" || f == "django" then some "8000"
  else if f == "react" || f == "nextjs" || f == "express" then some "3000"
  else none

/-- Ask for ports.  Without an answer that holds some, the first framework decides. -/
def askPorts (frameworks : List String) : DialogueM (List String) := do
  sayLine "\nWhat ports will your services use? (comma-separated, or press Enter to skip)"
  let given ←
    match ports? (← answer "Ports: ") with
    | some ports => pure ports
    | none => do
      sayLine "Warning: Invalid port numbers, skipping."
      pure []
  return if given.isEmpty then (frameworks.head?.bind defaultPort?).toList else given

def askTechStack (project : Classification) : DialogueM TechStack := do
  heading "PHASE 2: Technology Stack & Architecture"
  sayLine "\nWhat framework(s) are you using? (comma-separated, or press Enter to skip)"
  let frameworks := splitList (← answer "Frameworks: ")
  let extras ←
    match frameworks.head? with
    | some first => askFramework (Text.lower first)
    | none => pure []
  let services ← askServices project.projectType
  let ports ← askPorts frameworks
  sayLine "\nWhat is the architecture pattern? (press Enter for default)"
  sayLine "Options: microservices, monolith, serverless, event-driven, etc."
  let architecture ← answer "Architecture: "
  return ⟨frameworks, extras, services, ports, orDefault architecture project.projectType⟩

def askRequirements : DialogueM Requirements := do
  heading "PHASE 3: Constraints & Requirements"
  let deployment ← deployments.ask
  sayLine "\nAny specific networking requirements? (press Enter to skip)"
  let networking ← answer "Networking: "
  sayLine "\nWhat database(s) are you using? (comma-separated, or press Enter to skip)"
  let databases ← answer "Databases: "
  sayLine "\nAny specific constraints or requirements? (press Enter to skip)"
  let constraints ← answer "Constraints: "
  return ⟨deployment, orDefault networking "standard", splitList databases, constraints⟩

def isScriptFamily (language : String) : Bool :=
  language == "javascript" || language == "typescript"

def standardsShown (language : String) : String :=
  if language == "python" then "PEP 8, Google Style, Black, etc."
  else if isScriptFamily language then "Standard, Airbnb, Google, etc."
  else "Standard, Google Style, etc."

def defaultStandard (language : String) : String :=
  if language == "python" then "PEP 8" else "Standard"

def defaultTesting (language : String) : String :=
  if language == "python" then "pytest"
  else if isScriptFamily language then "jest"
  else "unknown"

def askWorkflow (language : String) : DialogueM Workflow := do
  heading "PHASE 4: Development Workflow & Standards"
  sayLine "\nWhat coding standards do you follow? (press Enter for default)"
  sayLine ("Options: " ++ standardsShown language)
  let standards ← answer "Coding standards: "
  sayLine "\nAny specific file organization preferences? (press Enter to skip)"
  let organization ← answer "File organization: "
  sayLine "\nWhat testing framework are you using? (press Enter to skip)"
  let testing ← answer "Testing framework: "
  return ⟨orDefault standards (defaultStandard language), orDefault organization "standard",
    orDefault testing (defaultTesting language)⟩

/-- The lines that repeat the most important answers. -/
def recap (project : Classification) (stack : TechStack) (requirements : Requirements)
    (workflow : Workflow) : List String :=
  [("Project Name", project.name), ("Project Type", project.projectType),
    ("Primary Language", project.language), ("Frameworks", ", ".intercalate stack.frameworks),
    ("Architecture", stack.architecture), ("Deployment Type", requirements.deployment),
    ("Testing Framework", workflow.testing)].map fun (shown, value) =>
      shown ++ ": " ++ orDefault value "N/A"

def askExample : DialogueM (List String) := do
  sayLine "\nWould you like to provide examples of correct/incorrect code? (yes/no)"
  if isYes (← answer "Provide examples: ") then
    sayLine "Enter examples (press Enter twice to finish):"
    readExample
  else return []

def askConfirmation (shown : List String) : DialogueM Confirmation := do
  heading "PHASE 5: Confirmation & Examples"
  sayLine "\n--- Recap of Project Information ---"
  sayLines shown
  sayLine ruleLine
  let confirmed := isYes (← answer "\nIs this information correct? (yes/no): ")
  if !confirmed then sayLine "Please review and correct the saved context as needed."
  let lines ← askExample
  return ⟨confirmed, lines⟩

end WorkspaceTemplates.Interview

/-
  WorkspaceTemplates/Template/Builtin.lean
  ========================================
  **The templates that are always at hand.**

  One text per file of a workspace.  Each names the project, and keeps regions for
  the languages, frameworks and platforms that it knows something about.
-/
import WorkspaceTemplates.Template

namespace WorkspaceTemplates.Template

def cursorRulesText : String :=
  Text.ofLines [
    "# Cursor Rules for <PLACEHOLDER: PROJECT_NAME>",
    "",
    "## Project Information",
    "- Project Name: <PLACEHOLDER: PROJECT_NAME>",
    "- Project Type: <PLACEHOLDER: PROJECT_TYPE>",
    "- Primary Language: <PLACEHOLDER: PRIMARY_LANGUAGE>",
    "- Technologies: <PLACEHOLDER: TECHNOLOGIES>",
    "- Architecture: <PLACEHOLDER: ARCHITECTURE>",
    "",
    "<PLACEHOLDER: PROJECT_DESCRIPTION>",
    "",
    "## Best Practices",
    "- Always reference official documentation before making recommendations",
    "- Cite sources for all architectural decisions",
    "- Extract all variables explicitly - no guessing",
    "- Use real, network-resolvable hostnames (avoid localhost/127.0.0.1 unless explicitly requested)",
    "",
    "## Code Standards",
    "- Coding standards: <PLACEHOLDER: CODING_STANDARDS>",
    "- File organization: <PLACEHOLDER: FILE_ORGANIZATION>",
    "- Testing framework: <PLACEHOLDER: TESTING_FRAMEWORK>",
    "- Linting: <PLACEHOLDER: LINTING_TOOLS>",
    "- Formatting: <PLACEHOLDER: FORMATTING_TOOLS>",
    "",
    "## Rule Loading",
    "Rules under `.cursor/rules/` load from level 1 (most general) to level 5",
    "(most specific). See `.cursor/rules/rules_manifest.json`."]

def coreText : String :=
  Text.ofLines [
    "# Level 1: Core Rules for <PLACEHOLDER: PROJECT_NAME>",
    "",
    "## Zero-Assumption Principles",
    "- Always reference official documentation before making recommendations",
    "- Cite sources for all architectural decisions",
    "- Never proceed without documentation backing",
    "- Extract all variables explicitly - no guessing",
    "- Never modify original reference files",
    "",
    "## General Best Practices",
    "- Follow project coding standards: <PLACEHOLDER: CODING_STANDARDS>",
    "- Maintain consistent file organization: <PLACEHOLDER: FILE_ORGANIZATION>",
    "- Write comprehensive tests using: <PLACEHOLDER: TESTING_FRAMEWORK>",
    "",
    "## Documentation Sources",
    "<PLACEHOLDER: DOCUMENTATION_SOURCES>"]

def architectureText : String :=
  Text.ofLines [
    "# Level 2: Architecture Rules for <PLACEHOLDER: PROJECT_NAME>",
    "",
    "## Architecture Pattern",
    "- Architecture: <PLACEHOLDER: ARCHITECTURE>",
    "- Deployment Type: <PLACEHOLDER: DEPLOYMENT_TYPE>",
    "- Networking: <PLACEHOLDER: NETWORKING>",
    "- Databases: <PLACEHOLDER: DATABASE>",
    "",
    "<PLACEHOLDER: IF_MICROSERVICES>",
    "## Services",
    "- Services: <PLACEHOLDER: SERVICES>",
    "- Ports: <PLACEHOLDER: PORTS>",
    "- Keep service boundaries explicit; never share databases between services",
    "<PLACEHOLDER: ENDIF_MICROSERVICES>",
    "<PLACEHOLDER: IF_DOCKER>",
    "## Containers",
    "- Containerization: <PLACEHOLDER: CONTAINERIZATION>",
    "<PLACEHOLDER: ENDIF_DOCKER>",
    "<PLACEHOLDER: IF_KUBERNETES>",
    "## Orchestration",
    "- Orchestration: <PLACEHOLDER: ORCHESTRATION>",
    "<PLACEHOLDER: ENDIF_KUBERNETES>",
    "",
    "## Design Principles",
    "- Follow established architecture patterns for <PLACEHOLDER: ARCHITECTURE>",
    "- Maintain separation of concerns",
    "- Use appropriate design patterns for the architecture"]

def projectTypeText : String :=
  Text.ofLines [
    "# Level 3: Project Type Rules for <PLACEHOLDER: PROJECT_NAME>",
    "",
    "## Project Type: <PLACEHOLDER: PROJECT_TYPE>",
    "",
    "## Project-Specific Guidelines",
    "- Follow best practices for <PLACEHOLDER: PROJECT_TYPE> projects",
    "- Maintain project structure appropriate for <PLACEHOLDER: PROJECT_TYPE>",
    "<PLACEHOLDER: IF_API>",
    "- Version every public endpoint and document request/response schemas",
    "<PLACEHOLDER: ENDIF_API>",
    "<PLACEHOLDER: IF_SPA>",
    "- Keep routing client-side and split bundles per route",
    "<PLACEHOLDER: ENDIF_SPA>",
    "<PLACEHOLDER: IF_CLI>",
    "- Exit non-zero on failure and keep stdout machine-readable",
    "<PLACEHOLDER: ENDIF_CLI>",
    "<PLACEHOLDER: IF_MONOREPO>",
    "- Keep packages independently buildable; share code through workspace packages",
    "<PLACEHOLDER: ENDIF_MONOREPO>",
    "<PLACEHOLDER: IF_FULL_STACK>",
    "- Share types between client and server instead of duplicating them",
    "<PLACEHOLDER: ENDIF_FULL_STACK>",
    "",
    "## Key Concepts",
    "<PLACEHOLDER: KEY_CONCEPTS>"]

def languageText : String :=
  Text.ofLines [
    "# Level 4: Language-Specific Rules for <PLACEHOLDER: PROJECT_NAME>",
    "",
    "## Primary Language: <PLACEHOLDER: PRIMARY_LANGUAGE>",
    "",
    "## Language-Specific Guidelines",
    "- Follow <PLACEHOLDER: PRIMARY_LANGUAGE> best practices and conventions",
    "- Coding standards: <PLACEHOLDER: CODING_STANDARDS>",
    "<PLACEHOLDER: IF_PYTHON>",
    "- Use type hints on public functions",
    "- Manage dependencies with a lock file",
    "<PLACEHOLDER: ENDIF_PYTHON>",
    "<PLACEHOLDER: IF_JAVASCRIPT>",
    "- Prefer TypeScript strict mode where available",
    "- Keep package.json scripts as the single entry point for tooling",
    "<PLACEHOLDER: ENDIF_JAVASCRIPT>",
    "<PLACEHOLDER: IF_GO>",
    "- Run gofmt and go vet before committing",
    "- Return errors, do not panic across package boundaries",
    "<PLACEHOLDER: ENDIF_GO>",
    "<PLACEHOLDER: IF_RUST>",
    "- Run cargo fmt and cargo clippy before committing",
    "- Propagate errors with Result and ?, avoid unwrap outside tests",
    "<PLACEHOLDER: ENDIF_RUST>"]

def frameworkText : String :=
  Text.ofLines [
    "# Level 5: Framework-Specific Rules for <PLACEHOLDER: PROJECT_NAME>",
    "",
    "## Framework: <PLACEHOLDER: FRAMEWORK>",
    "",
    "## Framework-Specific Guidelines",
    "- Follow <PLACEHOLDER: FRAMEWORK> best practices and conventions",
    "- Use framework-specific patterns and idioms",
    "<PLACEHOLDER: IF_FASTAPI>",
    "- Declare request and response models with Pydantic",
    "- Use dependency injection for database sessions",
    "<PLACEHOLDER: ENDIF_FASTAPI>",
    "<PLACEHOLDER: IF_DJANGO>",
    "- Keep business logic out of views; use model methods and services",
    "<PLACEHOLDER: ENDIF_DJANGO>",
    "<PLACEHOLDER: IF_FLASK>",
    "- Organize routes with blueprints",
    "<PLACEHOLDER: ENDIF_FLASK>",
    "<PLACEHOLDER: IF_REACT>",
    "- Prefer function components and hooks",
    "<PLACEHOLDER: ENDIF_REACT>",
    "<PLACEHOLDER: IF_NEXTJS>",
    "- Fetch data in server components where possible",
    "<PLACEHOLDER: ENDIF_NEXTJS>",
    "<PLACEHOLDER: IF_EXPRESS>",
    "- Centralize error handling in middleware",
    "<PLACEHOLDER: ENDIF_EXPRESS>",
    "<PLACEHOLDER: IF_NESTJS>",
    "- Group features into modules with their own providers",
    "<PLACEHOLDER: ENDIF_NESTJS>"]

def testText : String :=
  Text.ofLines [
    "# Test Commands for <PLACEHOLDER: PROJECT_NAME>",
    "",
    "## Running Tests",
    "- Testing framework: <PLACEHOLDER: TESTING_FRAMEWORK>",
    "<PLACEHOLDER: IF_PYTHON>",
    "- Run all tests: `pytest`",
    "- Run one test: `pytest path/to/test_file.py::test_name`",
    "<PLACEHOLDER: ENDIF_PYTHON>",
    "<PLACEHOLDER: IF_JAVASCRIPT>",
    "- Run all tests: `npm test`",
    "<PLACEHOLDER: ENDIF_JAVASCRIPT>",
    "<PLACEHOLDER: IF_GO>",
    "- Run all tests: `go test ./...`",
    "<PLACEHOLDER: ENDIF_GO>",
    "<PLACEHOLDER: IF_RUST>",
    "- Run all tests: `cargo test`",
    "<PLACEHOLDER: ENDIF_RUST>"]

def buildText : String :=
  Text.ofLines [
    "# Build Commands for <PLACEHOLDER: PROJECT_NAME>",
    "",
    "## Building the Project",
    "- Build tools: <PLACEHOLDER: BUILD_TOOLS>",
    "<PLACEHOLDER: IF_JAVASCRIPT>",
    "- Build: `npm run build`",
    "<PLACEHOLDER: ENDIF_JAVASCRIPT>",
    "<PLACEHOLDER: IF_GO>",
    "- Build: `go build ./...`",
    "<PLACEHOLDER: ENDIF_GO>",
    "<PLACEHOLDER: IF_RUST>",
    "- Build: `cargo build --release`",
    "<PLACEHOLDER: ENDIF_RUST>",
    "- Check project documentation for production build steps"]

def deployText : String :=
  Text.ofLines [
    "# Deployment Commands for <PLACEHOLDER: PROJECT_NAME>",
    "",
    "## Deployment",
    "- Deployment type: <PLACEHOLDER: DEPLOYMENT_TYPE>",
    "- Cloud platforms: <PLACEHOLDER: CLOUD_PLATFORMS>",
    "<PLACEHOLDER: IF_KUBERNETES>",
    "- Apply manifests: `kubectl apply -f k8s/`",
    "<PLACEHOLDER: ENDIF_KUBERNETES>",
    "<PLACEHOLDER: IF_VERCEL>",
    "- Deploy: `vercel --prod`",
    "<PLACEHOLDER: ENDIF_VERCEL>",
    "<PLACEHOLDER: IF_HEROKU>",
    "- Deploy: `git push heroku main`",
    "<PLACEHOLDER: ENDIF_HEROKU>"]

def dockerText : String :=
  Text.ofLines [
    "# Docker Commands for <PLACEHOLDER: PROJECT_NAME>",
    "",
    "## Docker Commands",
    "- Containerization: <PLACEHOLDER: CONTAINERIZATION>",
    "- Build image: `docker build -t <image> .`",
    "- Run container: `docker run <image>`",
    "- Exposed ports: <PLACEHOLDER: PORTS>"]

def agentsText : String :=
  Text.ofLines [
    "# Agent Guide for <PLACEHOLDER: PROJECT_NAME>",
    "",
    "<PLACEHOLDER: PROJECT_PURPOSE>",
    "",
    "## Stack",
    "- Language: <PLACEHOLDER: PRIMARY_LANGUAGE>",
    "- Framework: <PLACEHOLDER: FRAMEWORK>",
    "- Technologies: <PLACEHOLDER: TECHNOLOGIES>",
    "- Databases: <PLACEHOLDER: DATABASE>",
    "",
    "## Working in this repository",
    "1. Read `.cursorrules` first.",
    "2. Load `.cursor/rules/` in level order; skip levels not listed in",
    "   `rules_manifest.json`.",
    "3. Use the commands in `.cursor/commands/` instead of guessing tool",
    "   invocations."]

/-- The text of a template that is always at hand. -/
def builtinText : Template → String
  | cursorRules => cursorRulesText
  | rule .core => coreText
  | rule .architecture => architectureText
  | rule .projectType => projectTypeText
  | rule .language => languageText
  | rule .framework => frameworkText
  | command .test => testText
  | command .build => buildText
  | command .deploy => deployText
  | command .docker => dockerText
  | agents => agentsText

end WorkspaceTemplates.Template

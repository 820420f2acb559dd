/-
  WorkspaceTemplates/Cli/Usage.lean
  =================================
  **The commands of the program and their options.**

  A table of commands drives both the reading of arguments and the help.  Every
  command takes the options for the root and for JSON, and those for help and for
  the version.  Beside the commands of a command stands one more, `help`.
-/

namespace WorkspaceTemplates.Cli

/-- An option with two dashes. -/
structure Flag where
  name : String
  /-- What stands for the value in the help, if the option takes one. -/
  value? : Option String
  isRequired : Bool
  help : String
deriving DecidableEq, Repr

/-- A command, or the program itself. -/
inductive Usage where
  | mk (name about : String) (operands : List (String × String)) (flags : List Flag)
      (commands : List Usage)

namespace Usage

def name : Usage → String
  | .mk name _ _ _ _ => name

def about : Usage → String
  | .mk _ about _ _ _ => about

def operands : Usage → List (String × String)
  | .mk _ _ operands _ _ => operands

def flags : Usage → List Flag
  | .mk _ _ _ flags _ => flags

def commands : Usage → List Usage
  | .mk _ _ _ _ commands => commands

def command? (u : Usage) (name : String) : Option Usage := u.commands.find? (·.name == name)

/-! ### The table -/

def commonFlags : List Flag :=
  [⟨"root", some "ROOT", false, "Project root (default: auto-detect from .cursor/ or .git/)"⟩,
    ⟨"json", none, false, "Output as JSON"⟩]

def contextFlag (help : String) : Flag := ⟨"context", some "CONTEXT", true, help⟩

/-- An option without a value. -/
def switch (name help : String) : Flag := ⟨name, none, false, help⟩

def program : Usage :=
  .mk "scaffold" "Render project context into AI agent workspace files" [] [] [
    .mk "render" "Render a template file against a context and print the result"
      [("TEMPLATE", "Template file")]
      [contextFlag "Context file (YAML or JSON)",
        switch "strict" "Fail if any placeholder cannot be resolved"] [],
    .mk "check" "Check that every placeholder in a template resolves against a context"
      [("TEMPLATE", "")] [contextFlag ""] [],
    .mk "context" "Print a context after defaults and derived fields are applied"
      [] [contextFlag ""] [],
    .mk "generate" "Generate .cursorrules, rules, commands and manifests into the root" []
      [contextFlag "",
        ⟨"templates", some "TEMPLATES", false,
          "Template override directory (default: templates_dir from scaffold.yaml)"⟩,
        switch "strict" "Fail before writing if any placeholder cannot be resolved",
        switch "no-overwrite" "Leave existing files untouched"] [],
    .mk "interview" "Interview on stdin/stdout and save the resulting context" []
      [⟨"out", some "OUT", false,
          "Where to save the context (default: <root>/project_context.yaml)"⟩,
        switch "generate" "Generate the workspace once the interview finishes"] [],
    .mk "validate" "Validate a generated workspace" [] [] [],
    .mk "config" "Inspect scaffold.yaml" [] [] [
      .mk "show" "Print the effective configuration" [] [] [],
      .mk "validate" "Validate scaffold.yaml for common mistakes" [] [] []]]

def version : String := "0.1.0"

/-! ### Help -/

def spaces (n : Nat) : String := String.ofList (List.replicate n ' ')

/-- Lines of two columns.  The left one is filled up even where the right one is empty, and a text
    of several lines stays in its column. -/
def columns (rows : List (String × String)) : List String :=
  let width := rows.foldl (fun n r => max n r.1.length) 0
  rows.map fun (left, right) =>
    "  " ++ left ++ spaces (width - left.length + 2)
      ++ right.replace "\n" ("\n" ++ spaces (width + 4))

/-- A titled part of the help, which is left out without lines. -/
def part (title : String) (rows : List (String × String)) : List String :=
  if rows.isEmpty then [] else "" :: (title ++ ":") :: columns rows

def flagText (f : Flag) : String :=
  "--" ++ f.name ++ (match f.value? with | some v => " <" ++ v ++ ">" | none => "")

/-- The line of an option in the help, which shows the root that the environment gives. -/
def flagRow (envRoot? : Option String) (f : Flag) : String × String :=
  ((if f.name == "json" then "-j, " else "    ") ++ flagText f,
    if f.name == "root" then f.help ++ " [env: SCAFFOLD_ROOT=" ++ envRoot?.getD "" ++ "]"
    else f.help)

/-- The options of two lists in turn; of two at the same place, the one whose name is smaller goes
    first. -/
def interleave : List Flag → List Flag → List Flag
  | [], gs => gs
  | fs, [] => fs
  | f :: fs, g :: gs =>
    if f.name < g.name then f :: g :: interleave fs gs else g :: f :: interleave fs gs

/-- How a command is used; `title` are the names that lead to it. -/
def synopsis (u : Usage) (title : List String) : String :=
  " ".intercalate (title ++ ["[OPTIONS]"] ++ (u.flags.filter (·.isRequired)).map flagText
    ++ u.operands.map (fun o => "<" ++ o.1 ++ ">")
    ++ if u.commands.isEmpty then [] else ["<COMMAND>"])

/-- What the command `help` does, which stands beside the commands of a command. -/
def helperAbout : String := "Print this message or the help of the given subcommand(s)"

def help (u : Usage) (title : List String) (envRoot? : Option String) : List String :=
  let commands := u.commands.map fun c => (c.name, c.about)
  [u.about, "", "Usage: " ++ u.synopsis title]
    ++ part "Commands" (if commands.isEmpty then [] else commands ++ [("help", helperAbout)])
    ++ part "Arguments" (u.operands.map fun o => ("<" ++ o.1 ++ ">", o.2))
    ++ part "Options" ((interleave u.flags commonFlags).map (flagRow envRoot?)
      ++ [("-h, --help", "Print help"), ("-V, --version", "Print version")])

/-- The help of the command `help`; `title` are the names of the command that it stands in. -/
def helperHelp (title : List String) : List String :=
  [helperAbout, "", "Usage: " ++ " ".intercalate (title ++ ["help", "[COMMAND]..."])]
    ++ part "Arguments" [("[COMMAND]...", "Print help for the subcommand(s)")]

def versionLine (title : List String) : String := "-".intercalate title ++ " " ++ version

end Usage

end WorkspaceTemplates.Cli

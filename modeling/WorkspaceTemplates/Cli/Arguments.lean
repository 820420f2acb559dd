/-
  WorkspaceTemplates/Cli/Arguments.lean
  =====================================
  **Reading the arguments of the program.**

  Options may stand before and after operands, a value may follow its option or an
  equals sign, and after two dashes everything is an operand.  No option may be given
  twice to one command; one that is given to a command and to its subcommand counts
  as given to the latter.  Empty values are refused, and so are values that look like
  options.  A text that is asked for is printed as soon as it is reached, unless
  something before it was wrong.
-/
import WorkspaceTemplates.Cli.Usage
import WorkspaceTemplates.Text.Pieces

namespace WorkspaceTemplates.Cli

/-- What the program is asked to do. -/
inductive Action where
  | render (template context : String) (strict : Bool)
  | check (template context : String)
  | context (context : String)
  | generate (context : String) (templates? : Option String) (strict noOverwrite : Bool)
  | interview (out? : Option String) (generate : Bool)
  | validate
  | configShow
  | configValidate
deriving DecidableEq, Repr

structure Invocation where
  root? : Option String
  json : Bool
  action : Action
deriving DecidableEq, Repr

/-- Why the program does nothing. -/
inductive Stop where
  /-- The arguments are wrong. -/
  | misuse
  /-- A text is asked for. -/
  | print (text : String)
deriving DecidableEq, Repr

/-! ### What was given -/

/-- What was given to one command. -/
structure Given where
  operands : List String
  /-- Options with their values. -/
  values : List (String × String)
  /-- Options without values. -/
  switches : List String
  /-- An option whose value stands apart from it and has yet to be accepted. -/
  pending? : Option (String × String)
deriving DecidableEq, Repr

namespace Given

def nothing : Given := ⟨[], [], [], none⟩

/-- Accept the value of an option, which may not be empty nor the second one. -/
def accept (g : Given) (name value : String) : Except Stop Given :=
  if value.isEmpty || (g.values.lookup name).isSome then .error .misuse
  else .ok { g with values := (name, value) :: g.values }

/-- Accept the value that has yet to be accepted. -/
def settled (g : Given) : Except Stop Given :=
  match g.pending? with
  | none => .ok g
  | some (name, value) => { g with pending? := none }.accept name value

/-- Note an option without value, which may not be given twice. -/
def switchOn (g : Given) (name : String) : Except Stop Given :=
  if g.switches.contains name then .error .misuse
  else .ok { g with switches := name :: g.switches }

end Given

/-- The names of the commands that were given, with what was given to each of them, the program
    first. -/
abbrev Levels := List (String × Given)

def looksLikeOption (s : String) : Bool :=
  match s.toList with
  | '-' :: _ :: _ => true
  | _ => false

/-- The name and the value of an option, after its dashes. -/
def splitOption (s : List Char) : String × Option String :=
  let name := s.takeWhile (· != '=')
  match s.dropWhile (· != '=') with
  | [] => (String.ofList name, none)
  | _ :: value => (String.ofList name, some (String.ofList value))

/-! ### What is printed -/

def Stop.help (u : Usage) (title : List String) (envRoot? : Option String) : Stop :=
  .print (Text.ofLines (u.help title envRoot?))

def Stop.version (title : List String) : Stop := .print (Usage.versionLine title ++ "\n")

/-- What the command `help` of a command comes to, given the names that follow it.  It has no
    commands of its own. -/
def helpStop (envRoot? : Option String) (u : Usage) (title : List String) : List String → Stop
  | [] => .help u title envRoot?
  | name :: rest =>
    match u.command? name with
    | some v => helpStop envRoot? v (title ++ [name]) rest
    | none =>
      if name == "help" && rest.isEmpty && !u.commands.isEmpty then
        .print (Text.ofLines (Usage.helperHelp title))
      else .misuse

/-! ### Reading -/

def readShort (envRoot? : Option String) (u : Usage) (title : List String) :
    List Char → Given → Except Stop Given
  | [], g => .ok g
  | c :: rest, g =>
    if c = 'j' then do readShort envRoot? u title rest (← g.switchOn "json")
    else if c = 'h' then .error (.help u title envRoot?)
    else if c = 'V' then .error (.version title)
    else .error .misuse

/-- Read operands, of which there may not be more than the command takes. -/
def readOperands (u : Usage) : List String → Given → Except Stop Given
  | [], g => .ok g
  | s :: rest, g =>
    if s.isEmpty || u.operands.length ≤ g.operands.length then .error .misuse
    else readOperands u rest { g with operands := g.operands ++ [s] }

/-- Accept what was given to a command, if nothing is left out.  The environment may not have an
    empty root where none is given. -/
def finish (u : Usage) (envRoot? : Option String) (g : Given) (deeper : Levels) :
    Except Stop Levels := do
  let g ← g.settled
  let complete := (u.flags.filter (·.isRequired)).all fun f => (g.values.lookup f.name).isSome
  if g.operands.length < u.operands.length || !complete
      || (envRoot? == some "" && (g.values.lookup "root").isNone) then .error .misuse
  else .ok ((u.name, g) :: deeper)

/-- Read the arguments of a command; `title` are the names that lead to it.  A value apart from its
    option is accepted before the next option or operand is read, but only after the arguments of
    a command that follows it. -/
def readArguments (envRoot? : Option String) (u : Usage) (title : List String) (g : Given) :
    List String → Except Stop Levels
  | [] => if u.commands.isEmpty then finish u envRoot? g [] else .error .misuse
  | arg :: rest =>
    if !u.commands.isEmpty && !looksLikeOption arg then
      match u.command? arg with
      | some v => do
        finish u envRoot? g (← readArguments envRoot? v (title ++ [arg]) .nothing rest)
      | none =>
        .error (if arg == "help" then helpStop envRoot? u title rest else .misuse)
    else do
      let g ← g.settled
      match arg.toList with
      | ['-', '-'] =>
        if u.commands.isEmpty then finish u envRoot? (← readOperands u rest g) []
        else .error .misuse
      | '-' :: '-' :: body =>
        let (name, value?) := splitOption body
        match (u.flags ++ Usage.commonFlags).find? (·.name == name), value?, rest with
        | some f, some value, rest =>
          if f.value?.isSome then readArguments envRoot? u title (← g.accept name value) rest
          else .error .misuse
        | some f, none, rest =>
          if f.value?.isNone then readArguments envRoot? u title (← g.switchOn name) rest
          else
            match rest with
            | [] => .error .misuse
            | value :: rest =>
              if looksLikeOption value then .error .misuse
              else readArguments envRoot? u title { g with pending? := some (name, value) } rest
        | none, none, _ =>
          .error (if name == "help" then .help u title envRoot?
            else if name == "version" then .version title
            else .misuse)
        | none, some _, _ => .error .misuse
      | '-' :: c :: short =>
        readArguments envRoot? u title (← readShort envRoot? u title (c :: short) g) rest
      | _ => readArguments envRoot? u title (← readOperands u [arg] g) rest

/-! ### What is asked -/

/-- The value of an option, the innermost one counting. -/
def value? (levels : Levels) (name : String) : Option String :=
  levels.reverse.findSome? fun l => l.2.values.lookup name

def isGiven (levels : Levels) (name : String) : Bool :=
  levels.any fun l => l.2.switches.contains name

def action? (levels : Levels) : Option Action :=
  let operands := levels.flatMap (·.2.operands)
  match levels.map (·.1), operands, value? levels "context" with
  | [_, "render"], [template], some context =>
    some (.render template context (isGiven levels "strict"))
  | [_, "check"], [template], some context => some (.check template context)
  | [_, "context"], _, some context => some (.context context)
  | [_, "generate"], _, some context =>
    some (.generate context (value? levels "templates") (isGiven levels "strict")
      (isGiven levels "no-overwrite"))
  | [_, "interview"], _, _ => some (.interview (value? levels "out") (isGiven levels "generate"))
  | [_, "validate"], _, _ => some .validate
  | [_, "config", "show"], _, _ => some .configShow
  | [_, "config", "validate"], _, _ => some .configValidate
  | _, _, _ => none

/-- Read the arguments of the program.  The root of the environment counts where none is given. -/
def parse (args : List String) (envRoot? : Option String) : Except Stop Invocation :=
  let program := Usage.program
  match readArguments envRoot? program [program.name] .nothing args with
  | .error s => .error s
  | .ok levels =>
    match action? levels with
    | none => .error .misuse
    | some action =>
      .ok ⟨(value? levels "root").orElse fun _ => envRoot?, isGiven levels "json", action⟩

end WorkspaceTemplates.Cli

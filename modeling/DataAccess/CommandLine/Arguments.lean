import DataAccess.CommandLine.Listing

/-!
Command line arguments. Options may stand before and after the name of a command; of two values
for one option, the one after the command counts, and either counts before the environment.
-/
set_option autoImplicit false

namespace DataAccess.CommandLine

/-- Why a command line leads to no command. -/
inductive Refusal where
  | version
  /-- Help is asked for: on a command, or on the whole program. -/
  | help (command : Option String)
  | invalid
deriving DecidableEq

/-- An option with a value. -/
inductive OptionName where
  | config
  | format
  | relation
deriving DecidableEq

/-- What is given before or after the name of a command. -/
structure Given where
  schema : Option String := none
  config : Option String := none
  format : Option OutputFormat := none
  relation : Option String := none
  verbose : Bool := false

namespace Given

/-- Takes a path that no path was given for yet. -/
def path? (found : Option String) (value : String) : Except Refusal (Option String) :=
  if found.isSome || value.isEmpty then .error .invalid else .ok (some value)

def outputFormats : List (String × OutputFormat) := [("table", .table), ("json", .json)]

def takeOption (given : Given) (name : OptionName) (value : String) : Except Refusal Given :=
  match name with
  | .config => do return { given with config := ← path? given.config value }
  | .format =>
    match given.format, outputFormats.lookup value with
    | none, some format => .ok { given with format }
    | _, _ => .error .invalid
  | .relation =>
    if given.relation.isSome then .error .invalid else .ok { given with relation := some value }

def takeVerbose (given : Given) : Except Refusal Given :=
  if given.verbose then .error .invalid else .ok { given with verbose := true }

def takeSchema (given : Given) (value : String) : Except Refusal Given := do
  return { given with schema := ← path? given.schema value }

end Given

def longOptions : List (String × OptionName) :=
  [("config", .config), ("format", .format), ("relation", .relation)]

def shortOptions : List (Char × OptionName) := [('c', .config), ('f', .format), ('r', .relation)]

/-- What was read of an argument: an option may still want its value. -/
abbrev Taken := Given × Option OptionName

/-- Reads an argument of short options, after its dash. An option with a value takes the rest of
the argument for it. The version can only be asked for before a command. -/
def takeShort (command : Option String) (given : Given) : List Char → Except Refusal Taken
  | [] => .ok (given, none)
  | 'v' :: rest => do takeShort command (← given.takeVerbose) rest
  | 'h' :: _ => .error (.help command)
  | 'V' :: _ => .error (if command.isNone then .version else .invalid)
  | c :: rest =>
    match shortOptions.lookup c, rest with
    | none, _ => .error .invalid
    | some name, [] => .ok (given, some name)
    | some name, '=' :: value | some name, value => do
      return (← given.takeOption name (String.ofList value), none)

/-- Reads an argument of one long option, after its dashes. -/
def takeLong (command : Option String) (given : Given) (argument : List Char) :
    Except Refusal Taken :=
  let name := String.ofList (argument.takeWhile (· != '='))
  match longOptions.lookup name, argument.dropWhile (· != '=') with
  | some name, '=' :: value => do
    return (← given.takeOption name (String.ofList value), none)
  | some name, _ => .ok (given, some name)
  | none, [] =>
    match name with
    | "verbose" => do return (← given.takeVerbose, none)
    | "help" => .error (.help command)
    | "version" => .error (if command.isNone then .version else .invalid)
    | _ => .error .invalid
  | none, _ => .error .invalid

/-- An argument that is no option: a single dash is a word. -/
def isWord (argument : String) : Bool :=
  !argument.startsWith "-" || argument == "-"

def commandNames : List String := ["plan", "sql", "help"]

/-- Reads the arguments of a command, or those of the program up to the name of a command, which
is given back with what follows it. After two dashes all arguments are words. -/
def takeArguments (command : Option String) (given : Given) :
    List String → Except Refusal (Given × Option (String × List String))
  | [] => .ok (given, none)
  | argument :: rest =>
    if argument = "--" then do return (← rest.foldlM Given.takeSchema given, none)
    else if isWord argument then
      if command.isNone && commandNames.contains argument then
        .ok (given, some (argument, rest))
      else do takeArguments command (← given.takeSchema argument) rest
    else do
      let (given, wanting) ←
        match argument.toList with
        | '-' :: '-' :: long => takeLong command given long
        | short => takeShort command given short.tail
      match wanting, rest with
      | none, rest => takeArguments command given rest
      | some name, value :: rest =>
        if isWord value then do
          takeArguments command (← given.takeOption name value) rest
        else .error .invalid
      | some _, [] => .error .invalid

inductive Command where
  /-- Makes methods, or tells how to if there is no schema. -/
  | methods (schema : Option String)
  | plan (schema : String)
  | statements (schema : String)
deriving DecidableEq

/-- A command line that was understood. -/
structure Invocation where
  command : Command
  config : Option String
  format : OutputFormat
  relation : Option String
  verbose : Bool
deriving DecidableEq

/-- The path from the environment, where the command line gives none. -/
def configFrom (environment : Option String) (given : Given) : Except Refusal (Option String) :=
  match given.config, environment with
  | none, some path => Given.path? none path
  | config, _ => .ok config

/-- Puts together what is given before and after the name of a command. -/
def invocation (command : Command) (configVariable : Option String) (before after : Given) :
    Except Refusal Invocation := do
  let late ← configFrom configVariable after
  let early ← configFrom configVariable before
  return {
    command
    config := after.config.or (before.config.or (late.or early))
    format := (after.format.or before.format).getD .table
    relation := after.relation.or before.relation
    verbose := after.verbose || before.verbose }

/-- Understands a command line. -/
def Invocation.ofArguments (configVariable : Option String) (arguments : List String) :
    Except Refusal Invocation := do
  match ← takeArguments none {} arguments with
  | (given, none) => invocation (.methods given.schema) configVariable given given
  | (given, some (name, rest)) =>
    if name = "help" then
      .error (if rest.length ≤ 1 && rest.all commandNames.contains then .help rest.head?
        else .invalid)
    else
      let (own, _) ← takeArguments (some name) {} rest
      match own.schema with
      | none => .error .invalid
      | some schema =>
        let command := if name = "plan" then .plan schema else .statements schema
        invocation command configVariable given own

end DataAccess.CommandLine

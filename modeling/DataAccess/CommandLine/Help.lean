import DataAccess.CommandLine.Arguments

/-!
The help on the program and on each of its commands. Every block of it has its explanations in one
column. The words are those that the options and commands are declared with.
-/
set_option autoImplicit false

namespace DataAccess.CommandLine

/-- A titled block: how each thing is written, and what it is for. -/
def helpBlock (title : String) (entries : List (String × String)) : List String :=
  let width := longest (entries.map (·.1))
  "" :: (title ++ ":") :: entries.map fun (form, summary) =>
    "  " ++ padded width form ++ "  " ++ summary

def commandSummaries : List (String × String) :=
  [("plan", "List the operations each relation supports"),
    ("sql", "Print canonical statement text only"),
    ("help", "Print this message or the help of the given subcommand(s)")]

def schemaSummary : String := "Schema file (.json or .toml)"

/-- The options of the program and of its commands, with what the environment says of them. -/
def optionSummaries (configVariable : Option String) : List (String × String) :=
  [("-c, --config <CONFIG>", "Settings file; defaults to ./crudgen.toml, then the user config " ++
      "[env: CRUDGEN_CONFIG=" ++ configVariable.getD "" ++ "]"),
    ("-f, --format <FORMAT>", "Output format [default: table] [possible values: table, json]"),
    ("-r, --relation <RELATION>", "Only this relation (plain or qualified name)"),
    ("-v, --verbose", "Verbose output"),
    ("-h, --help", "Print help")]

def exampleLines : List String :=
  ["", "EXAMPLES:",
    "    crudgen schema.json",
    "    crudgen schema.toml --relation dbo.Order --format json",
    "    crudgen plan schema.json",
    "    crudgen sql schema.json --relation Customer"]

/-- The lines of help on a command, or on the program. -/
def helpLines (configVariable : Option String) : (command : Option String) → List String
  | none =>
    ["Synthesize CRUD methods from a relational schema", "",
      "Usage: crudgen [OPTIONS] [SCHEMA] [COMMAND]"] ++
    helpBlock "Commands" commandSummaries ++
    helpBlock "Arguments" [("[SCHEMA]", schemaSummary)] ++
    helpBlock "Options" (optionSummaries configVariable ++ [("-V, --version", "Print version")]) ++
    exampleLines
  | some name =>
    (commandSummaries.lookup name).toList ++ "" ::
    if name = "help" then
      "Usage: crudgen help [COMMAND]" :: helpBlock "Commands" commandSummaries
    else
      ("Usage: crudgen " ++ name ++ " [OPTIONS] <SCHEMA>") ::
      helpBlock "Arguments" [("<SCHEMA>", schemaSummary)] ++
      helpBlock "Options" (optionSummaries configVariable)

end DataAccess.CommandLine

import DataAccess.CommandLine.Help
import DataAccess.Files.Source
import DataAccess.Journal.Filter

/-!
What a command line answers: a listing, the events of the work, and why it failed if it did. All
commands read the settings first, then the schema, and then select relations.
-/
set_option autoImplicit false

namespace DataAccess.CommandLine

/-- Why a command failed. -/
inductive Failure where
  | settings (error : Error)
  | schema (path : String) (error : Error)
  | noRelation (name : String)
  | synthesis (error : Error)
deriving DecidableEq

/-- The cause behind an error, where there is one. -/
def cause : Error → String
  | .unreadableSchema reason => ": " ++ reason.message
  | _ => ""

def Failure.message : Failure → String
  | settings error => "loading settings: " ++ error.message
  | schema path error => "reading schema " ++ path ++ ": " ++ error.message ++ cause error
  | noRelation name => "no relation named " ++ name
  | synthesis error => error.message

structure Report where
  listing : Option Listing := none
  events : List Event := []
  failure : Option Failure := none

/-- The report with events before its own. -/
def Report.after (report : Report) (events : List Event) : Report :=
  { report with events := events ++ report.events }

/-- The relations to work on: all, or the one that is asked for. -/
def select (schema : Schema) (name : Option String) : Except Failure (List Relation) :=
  match name with
  | none => .ok schema.relations
  | some name =>
    match schema.relation? name with
    | some relation => .ok [relation]
    | none => .error (.noRelation name)

/-- The methods of relations before the first that fails, and its error. -/
def synthesizeUntilFailure (synthesizer : Synthesizer) :
    List Relation → List RelationMethods × Option Error
  | [] => ([], none)
  | relation :: rest =>
    match synthesizer.synthesizeRelation relation with
    | .ok made =>
      let (others, error) := synthesizeUntilFailure synthesizer rest
      (made :: others, error)
    | .error error => ([], some error)

/-- Lists all methods, or none if the methods of some relation cannot be made. -/
def reportMethods (synthesizer : Synthesizer) (format : OutputFormat)
    (relations : List Relation) : Report :=
  let events := synthesizer.events relations
  match relations.mapM synthesizer.synthesizeRelation with
  | .ok made => { listing := some (.methods format made), events }
  | .error error => { events, failure := some (.synthesis error) }

/-- Lists the statements of all methods, as far as they can be made. -/
def reportStatements (synthesizer : Synthesizer) (relations : List Relation) : Report :=
  let (made, error) := synthesizeUntilFailure synthesizer relations
  { listing := some (.statements (made.flatMap fun relation => relation.methods.map (·.body.sql)))
    events := synthesizer.events relations
    failure := error.map .synthesis }

def planOf (synthesizer : Synthesizer) (relation : Relation) : RelationPlan where
  relation := relation
  settings := synthesizer.settings.forRelation relation
  operations := (synthesizer.plan relation).map fun operation =>
    (operation.kind, synthesizer.naming.method relation operation.kind operation.unique)

/-- Lists the operations that relations support. -/
def reportPlans (synthesizer : Synthesizer) (format : OutputFormat)
    (relations : List Relation) : Report where
  listing := some (.plans format (relations.map (planOf synthesizer)))
  events := relations.flatMap fun relation =>
    relation.planEvents (synthesizer.settings.forRelation relation)

namespace Invocation

variable (invocation : Invocation) (files : Files)

/-- Reads a schema and reports on the selected relations. -/
def reportOn (path : String) (report : List Relation → Report) : Report :=
  match Schema.ofFile files path with
  | .error error => { failure := some (.schema path error) }
  | .ok schema =>
    match select schema invocation.relation with
    | .error failure => { events := Schema.fileEvents files path, failure := some failure }
    | .ok relations => (report relations).after (Schema.fileEvents files path)

/-- Carries out the command under settings. -/
def reportUnder (settings : Settings) : Report :=
  let synthesizer : Synthesizer := { settings }
  match invocation.command with
  | .methods none => { listing := some .usage }
  | .methods (some path) =>
    invocation.reportOn files path (reportMethods synthesizer invocation.format)
  | .plan path => invocation.reportOn files path (reportPlans synthesizer invocation.format)
  | .statements path => invocation.reportOn files path (reportStatements synthesizer)

def report : Report :=
  match Settings.find files invocation.config with
  | .error error => { failure := some (.settings error) }
  | .ok settings =>
    (invocation.reportUnder files settings).after (Settings.findEvents files invocation.config)

/-- The files that the command may read. -/
def paths (userSettings : Option String) : List String :=
  invocation.config.toList ++ localSettings :: userSettings.toList ++
    match invocation.command with
    | .methods schema => schema.toList
    | .plan schema | .statements schema => [schema]

end Invocation

/-- The environment that the program reads. -/
structure Environment where
  config : Option String := none
  log : Option String := none
  forceColor : Option String := none

/-- The filter of the log; one that cannot be read is as none. -/
def Environment.filter (environment : Environment) (verbose : Bool) : EventFilter :=
  (environment.log.bind EventFilter.parse?).getD (.standard verbose)

/-- Output is plain unless colours are forced. -/
def Environment.colored (environment : Environment) : Bool :=
  environment.forceColor.any (· != "0")

structure Response where
  code : Nat
  output : List String := []
  errors : List String := []
deriving DecidableEq

/-- Lines as text: every line is ended. -/
def textOfLines (lines : List String) : String :=
  String.join (lines.map (· ++ "\n"))

/-- A report as lines of output and errors. The log comes without the time of each event. -/
def Report.response (report : Report) (filter : EventFilter) (colored : Bool) : Response where
  code := if report.failure.isSome then 1 else 0
  output := report.listing.toList.flatMap (·.lines colored)
  errors := (report.events.filter filter.passes).map (·.line) ++
    report.failure.toList.map fun failure =>
      styled colored .failure "Error:" ++ " " ++ failure.message

/-- An invalid command line is told the usage, but not what is wrong with it. -/
def Refusal.response (environment : Environment) : Refusal → Response
  | version => { code := 0, output := ["crudgen 0.3.0"] }
  | help command => { code := 0, output := helpLines environment.config command }
  | invalid => { code := 2, errors := ["Usage: crudgen [OPTIONS] [SCHEMA] [COMMAND]"] }

/-- What the program answers to a command line. -/
def run (files : Files) (environment : Environment) (arguments : List String) : Response :=
  match Invocation.ofArguments environment.config arguments with
  | .error refusal => refusal.response environment
  | .ok invocation =>
    (invocation.report files).response (environment.filter invocation.verbose) environment.colored

end DataAccess.CommandLine

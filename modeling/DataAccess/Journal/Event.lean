import DataAccess.Synthesis

/-!
What synthesis reports about its work: which operations were planned, which foreign keys became
filters, and which methods were made. The events follow from the input alone and stop where
synthesis fails.
-/
set_option autoImplicit false

namespace DataAccess

/-- How much an event matters, from most to least. -/
inductive Level where
  | error
  | warn
  | info
  | debug
  | trace
deriving DecidableEq

namespace Level

def name : Level → String
  | error => "ERROR"
  | warn => "WARN"
  | info => "INFO"
  | debug => "DEBUG"
  | trace => "TRACE"

/-- How many of the levels a filter lets through that lets this one through. -/
def rank : Level → Nat
  | error => 1
  | warn => 2
  | info => 3
  | debug => 4
  | trace => 5

end Level

/-- The controls that a terminal may act on, of those below 128. -/
def terminalControls : List Char := ['\x07', '\x08', '\x0c', '\x1b', '\x7f']

/-- A character as a terminal may show it: a control that it may act on stands as its code. -/
def tame (c : Char) : List Char :=
  if terminalControls.contains c then
    ['\\', 'x', Text.hexDigit (c.toNat / 16), Text.hexDigit (c.toNat % 16)]
  else if 0x80 ≤ c.toNat && c.toNat ≤ 0x9F then Text.codeEscape c
  else [c]

def tamed (text : String) : String :=
  String.ofList (text.toList.flatMap tame)

structure Event where
  level : Level
  /-- The part of the program that the event comes from. -/
  source : String
  message : String
deriving DecidableEq

namespace Event

/-- A line for a terminal. -/
def line (event : Event) : String :=
  event.level.name ++ " " ++ event.source ++ ": " ++ tamed event.message

def planned (relation : Relation) (operations : List Operation) : Event :=
  ⟨.debug, "crudgen::planner",
    "Planned " ++ toString operations.length ++ " operations for table " ++ relation.fullName⟩

def skipped (table : Table) (key : ForeignKey) : Event :=
  ⟨.debug, "crudgen::engine",
    "Skipping multi-column foreign key " ++ Text.quotedList key.columns ++ " on " ++
      table.name ++ " in read-all filters"⟩

def filtered (table : Table) (filter : Filter) : Event :=
  ⟨.trace, "crudgen::engine",
    "Filter on " ++ table.name ++ "." ++ filter.column.name ++ " bound as " ++ filter.marker⟩

def synthesized (method : Method) : Event :=
  ⟨.debug, "crudgen::engine",
    "Synthesized " ++ method.name ++ " (" ++ method.kind.name ++ "): " ++ method.body.sql⟩

end Event

/-- The events of planning a relation. Only the plan of a table is worth one. -/
def Relation.planEvents (relation : Relation) (settings : GenerationSettings) : List Event :=
  match relation with
  | .table _ => [.planned relation (relation.plan settings)]
  | .view _ | .function _ => []

def Schema.planEvents (schema : Schema) (settings : Settings) : List Event :=
  schema.relations.flatMap fun relation => relation.planEvents (settings.forRelation relation)

/-- Whether a foreign key names its column, if it has only one, among those of the table. -/
def Table.knowsKey (table : Table) (key : ForeignKey) : Bool :=
  key.singleColumn?.all fun column => (table.findColumn? column).isSome

/-- The events of choosing the filters of a table. -/
def Conventions.filterEvents (conventions : Conventions) (table : Table) (paging : Bool) :
    List Event :=
  let skipped := (table.foreignKeys.takeWhile table.knowsKey).filter (·.singleColumn?.isNone)
  let filters := (conventions.filters table paging).toOption.getD []
  skipped.map (.skipped table) ++ filters.map (.filtered table)

/-- The events of a sequence of tasks, which ends with the first that fails. -/
def eventsUntilFailure {α β : Type} (events : α → List Event) (run : α → Except Error β) :
    List α → List Event
  | [] => []
  | task :: rest =>
    events task ++
      match run task with
      | .ok _ => eventsUntilFailure events run rest
      | .error _ => []

namespace Synthesizer

variable (synthesizer : Synthesizer)

/-- The events of making the method of one operation. The filters of a table are chosen anew to
render the statement, to bind its values and to assemble the method, as far as it gets. -/
def operationEvents (operation : Operation) : List Event :=
  let conventions := synthesizer.conventions
  let filters := match operation.kind, operation.relation with
    | .readAll, .table table => conventions.filterEvents table operation.settings.paging
    | _, _ => []
  let rendered := (conventions.render operation).isOk
  let bound := rendered && (conventions.bind operation).isOk
  let made := (synthesizer.synthesizeValidated operation).toOption.toList
  filters ++ (if rendered then filters else []) ++ (if bound then filters else []) ++
    made.map .synthesized

/-- The events of making all methods of a relation; none if the relation is refused. -/
def relationEvents (relation : Relation) : List Event :=
  match relation.validate with
  | .error _ => []
  | .ok _ =>
    relation.planEvents (synthesizer.settings.forRelation relation) ++
      eventsUntilFailure synthesizer.operationEvents synthesizer.synthesizeValidated
        (synthesizer.plan relation)

/-- The events of making the methods of several relations. -/
def events (relations : List Relation) : List Event :=
  eventsUntilFailure synthesizer.relationEvents synthesizer.synthesizeRelation relations

end Synthesizer

end DataAccess

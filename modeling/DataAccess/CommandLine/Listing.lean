import DataAccess.CommandLine.Style
import DataAccess.Document.Json.Printer
import DataAccess.Method.Document

/-!
What commands print: methods, statements or plans, as tables for people or as JSON.
-/
set_option autoImplicit false

namespace DataAccess.CommandLine

open Document (text texts list record)
open Sql

inductive OutputFormat where
  | table
  | json
deriving DecidableEq

/-- A relation with the operations it supports. -/
structure RelationPlan where
  relation : Relation
  settings : GenerationSettings
  /-- The operations, with the names of their methods. -/
  operations : List (OperationKind × String)

inductive Listing where
  | usage
  | methods (format : OutputFormat) (relations : List RelationMethods)
  | statements (texts : List String)
  | plans (format : OutputFormat) (relations : List RelationPlan)

/-! ## Methods -/

def typeCode : CallerType → String
  | .scalar target true => "Option<" ++ target ++ ">"
  | .scalar target false => target
  | .entity name true => "&mut " ++ name
  | .entity name false => "&" ++ name

def parameterCode (parameter : CallerParameter) : String :=
  let declaration := parameter.name ++ ": " ++ typeCode parameter.type
  match parameter.default with
  | some (.int value) => declaration ++ " = " ++ toString value
  | some .null => declaration ++ " = None"
  | none => declaration

def returnCode : ReturnShape → String
  | .rows entity => "Vec<" ++ entity ++ ">"
  | .optionalRow entity => "Option<" ++ entity ++ ">"
  | .affectedRows => "u64"

def signature (method : Method) : String :=
  "fn " ++ method.name ++ "(" ++ ", ".intercalate (method.parameters.map parameterCode) ++
    ") -> " ++ returnCode method.returns

def stepLabel : Step → String
  | .acquireConnection => "open"
  | .generateKey property => "new guid → " ++ property
  | .execute (.queryRows _) => "query rows"
  | .execute (.queryOptionalRow _) => "query first"
  | .execute .execute => "execute"
  | .writeBackIdentity property binding _ => property ++ " ← @" ++ binding
  | .releaseConnection => "close"

def sourceLabel : ValueSource → String
  | .argument name => name
  | .entity property => "entity." ++ property

def arrow : Direction → String
  | .input => "←"
  | .output => "→"

def bindingLine (colored : Bool) (binding : Binding) : String :=
  "      " ++ styled colored .name binding.name ++ " " ++ arrow binding.direction ++ " " ++
    styled colored .label (sourceLabel binding.source) ++ " " ++
    styled colored .note binding.type.dbType.name

/-- A method: an empty line, its documentation, its signature, the code that builds its
statement, its bindings and its steps. -/
def methodLines (colored : Bool) (method : Method) : List String :=
  "" ::
  method.doc.toList.map (fun doc => "  " ++ styled colored .note ("/// " ++ doc)) ++
  ["  " ++ styled colored .signature (signature method)] ++
  method.body.query.code.map (fun line => "      " ++ styled colored .code line) ++
  method.body.bindings.map (bindingLine colored) ++
  ["      " ++ styled colored .note
    (" → ".intercalate (method.body.contract.steps.map stepLabel))]

def relationLines (colored : Bool) (relation : RelationMethods) : List String :=
  (styled colored .name "▸" ++ " " ++ styled colored .title relation.relation ++ " " ++
    styled colored .note ("(" ++ toString relation.methods.length ++ " methods)")) ::
  relation.methods.flatMap (methodLines colored) ++ [""]

/-! ## Plans -/

def kindLabel : RelationKind → String
  | .table => "Table"
  | .view => "View"
  | .tableFunction => "TableFunction"

def strategyLabel : RenderStrategy → String
  | .incrementalAppend => "IncrementalAppend"
  | .literalBlock => "LiteralBlock"

def settingsLabel (settings : GenerationSettings) : String :=
  "[" ++ strategyLabel settings.renderStrategy ++ ", paging=" ++
    (if settings.paging then "true" else "false") ++ "]"

def operationLine (colored : Bool) (kind : OperationKind) (method : String) : String :=
  "  " ++ styled colored .name (padded 16 kind.name) ++ " " ++ styled colored .label method

def planLines (colored : Bool) (plan : RelationPlan) : List String :=
  (styled colored .note (kindLabel plan.relation.kind) ++ " " ++
    styled colored .title plan.relation.fullName ++ " " ++
    styled colored .note (settingsLabel plan.settings)) ::
  plan.operations.map fun (kind, method) => operationLine colored kind method

def RelationPlan.document (plan : RelationPlan) : Document :=
  record [("operations", texts (plan.operations.map (·.1.name))),
    ("relation", text plan.relation.fullName)]

/-! ## Listings -/

def usageLines (colored : Bool) : List String :=
  [styled colored .heading "crudgen: CRUD method synthesis", "",
    "Usage: crudgen <SCHEMA> [OPTIONS]", "", "Try: crudgen --help"]

def Listing.lines (colored : Bool) : Listing → List String
  | usage => usageLines colored
  | methods .table relations => relations.flatMap (relationLines colored)
  | methods .json relations => [Json.print (list (relations.map RelationMethods.document))]
  | statements texts => texts.map (· ++ ";")
  | plans .table relations => relations.flatMap (planLines colored)
  | plans .json relations => [Json.print (list (relations.map RelationPlan.document))]

end DataAccess.CommandLine

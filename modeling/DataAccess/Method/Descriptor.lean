import DataAccess.Method.Binding
import DataAccess.Sql.Query

/-!
Methods ready for code generation: name, caller parameters, what is returned, the statement with
its bindings, and the steps of one exchange with the database.
-/
set_option autoImplicit false

namespace DataAccess

open Sql

/-- The argument that carries the row. -/
def entityArgument : String := "entity"

inductive CallerType where
  | scalar (target : String) (optional : Bool)
  /-- A row, which is mutable if the method writes to it. -/
  | entity (name : String) (mutable : Bool)
deriving DecidableEq

inductive DefaultValue where
  | int (value : Int)
  | null
deriving DecidableEq

structure CallerParameter where
  name : String
  type : CallerType
  default : Option DefaultValue := none
deriving DecidableEq

inductive ReturnShape where
  | rows (entity : String)
  | optionalRow (entity : String)
  | affectedRows
deriving DecidableEq

/-- How the statement is handed to the database. -/
inductive ExecuteCall where
  | queryRows (entity : String)
  | queryOptionalRow (entity : String)
  | execute
deriving DecidableEq

inductive Step where
  | acquireConnection
  /-- Gives the key attribute a new GUID. -/
  | generateKey (property : String)
  | execute (call : ExecuteCall)
  /-- Copies the identity that an output binding received to the row. -/
  | writeBackIdentity (property binding target : String)
  /-- Runs on success and on failure. -/
  | releaseConnection
deriving DecidableEq

structure ExecutionContract where
  steps : List Step
deriving DecidableEq

namespace ExecutionContract

/-- The connection is held from after the preparing steps to the end. -/
def around (before : List Step) (call : ExecuteCall) (after : List Step) : ExecutionContract :=
  ⟨before ++ [.acquireConnection, .execute call] ++ after ++ [.releaseConnection]⟩

def call? (contract : ExecutionContract) : Option ExecuteCall :=
  contract.steps.findSome? fun
    | .execute call => some call
    | _ => none

def identityWriteBack? (contract : ExecutionContract) : Option Step :=
  contract.steps.find? fun
    | .writeBackIdentity .. => true
    | _ => false

end ExecutionContract

structure MethodBody where
  query : RenderedQuery
  /-- The canonical statement text. -/
  sql : String
  bindings : List Binding
  contract : ExecutionContract
deriving DecidableEq

structure Method where
  name : String
  kind : OperationKind
  relation : String
  doc : Option String
  parameters : List CallerParameter
  returns : ReturnShape
  body : MethodBody
deriving DecidableEq

def returnShape (kind : OperationKind) (entity : String) : ReturnShape :=
  match kind with
  | .readAll => .rows entity
  | .readByKey | .readByUnique => .optionalRow entity
  | .insert | .update | .delete => .affectedRows

def executeCall (kind : OperationKind) (entity : String) : ExecuteCall :=
  match kind with
  | .readAll => .queryRows entity
  | .readByKey | .readByUnique => .queryOptionalRow entity
  | .insert | .update | .delete => .execute

/-- The step that copies an output to the row it belongs to. -/
def Binding.writeBack? (binding : Binding) : Option Step :=
  match binding.direction, binding.source with
  | .output, .entity property =>
    some (.writeBackIdentity property binding.name binding.type.target)
  | _, _ => none

/-- What has to happen after the statement of an operation has run. -/
def Operation.stepsAfter (operation : Operation) (bindings : List Binding) : List Step :=
  match operation.kind with
  | .insert => bindings.filterMap (·.writeBack?)
  | _ => []

namespace Conventions

variable (conventions : Conventions)

def pagingParameters : List CallerParameter :=
  [(pageSizeName, defaultPageSize), (pageNumberName, defaultPageNumber)].map
    fun (name, value) =>
      ⟨conventions.naming.argument name, .scalar pagingType.target false, some (.int value)⟩

/-- A filter that the caller leaves out does not restrict the rows. -/
def filterParameter (relation : Relation) (filter : Filter) : Except Error CallerParameter := do
  let type ← conventions.resolve relation filter.column.name filter.column.declaredType
  return ⟨filter.argument, .scalar type.target true, some .null⟩

def functionParameter (relation : Relation) (parameter : Parameter) :
    Except Error CallerParameter := do
  let type ← conventions.resolve relation parameter.name parameter.declaredType
  return ⟨conventions.naming.argument parameter.name, .scalar type.target false, none⟩

/-- Paging scalars and then filters for a table, the declared parameters for a function. -/
def readAllParameters (operation : Operation) : Except Error (List CallerParameter) :=
  match operation.relation with
  | .table table => do
    let filters ← conventions.filters table operation.settings.paging
    let parameters ← filters.mapM (conventions.filterParameter operation.relation)
    return (if operation.settings.paging then conventions.pagingParameters else []) ++ parameters
  | .view _ => .ok []
  | .function function =>
    function.parameters.mapM (conventions.functionParameter operation.relation)

/-- The attribute of a primary key that is a single GUID column and no identity. -/
def guidKeyProperty? (relation : Relation) (table : Table) : Except Error (Option String) := do
  match ← table.keyColumns with
  | [column] =>
    if table.identity = some column.name then return none
    let type ← conventions.resolve relation column.name column.declaredType
    return if type.isGuid then some (conventions.naming.property column.name) else none
  | _ => return none

/-- What has to happen before an operation takes a connection. -/
def stepsBefore (operation : Operation) : Except Error (List Step) :=
  match operation.kind, operation.relation with
  | .insert, .table table => do
    let property ← conventions.guidKeyProperty? operation.relation table
    return property.toList.map .generateKey
  | _, _ => .ok []

/-- What the caller passes: scalars to read all rows, the row itself otherwise. -/
def callerParameters (operation : Operation) (entity : String) (mutable : Bool) :
    Except Error (List CallerParameter) :=
  match operation.kind with
  | .readAll => conventions.readAllParameters operation
  | _ => .ok [⟨entityArgument, .entity entity mutable, none⟩]

/-- Puts a method together from the statement and the bindings of its operation. -/
def assemble (operation : Operation) (statement : Statement) (bindings : List Binding) :
    Except Error Method := do
  let entity := conventions.naming.entity operation.relation
  let before ← conventions.stepsBefore operation
  let after := operation.stepsAfter bindings
  let parameters ← conventions.callerParameters operation entity
    (!before.isEmpty || !after.isEmpty)
  return {
    name := conventions.naming.method operation.relation operation.kind operation.unique
    kind := operation.kind
    relation := operation.relation.fullName
    doc := if operation.kind = .readAll then operation.relation.description else none
    parameters
    returns := returnShape operation.kind entity
    body := {
      query := operation.settings.renderStrategy.write statement
      sql := statement.sql
      bindings
      contract := .around before (executeCall operation.kind entity) after } }

end Conventions

end DataAccess

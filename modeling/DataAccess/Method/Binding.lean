import DataAccess.Method.Conventions

/-!
The bindings of each kind of operation: for every placeholder of the statement, in order of first
occurrence, where its value comes from and which type it has.
-/
set_option autoImplicit false

namespace DataAccess

/-- The page size and page number used when the caller passes none. -/
def defaultPageSize : Int := 10

def defaultPageNumber : Int := 1

inductive ValueSource where
  | argument (name : String)
  | entity (property : String)
deriving DecidableEq

/-- Whether a statement reads a value or fills it; only the identity of an insert is filled. -/
inductive Direction where
  | input
  | output
deriving DecidableEq

structure Binding where
  /-- The placeholder without its sigil. -/
  name : String
  source : ValueSource
  direction : Direction
  type : ResolvedType
deriving DecidableEq

/-- The type of the paging scalars. -/
def pagingType : ResolvedType := ⟨"i32", .int32⟩

namespace Conventions

variable (conventions : Conventions)

/-- The binding of a column's value in the row. -/
def entityBinding (relation : Relation) (direction : Direction) (column : Column) :
    Except Error Binding := do
  let type ← conventions.resolveColumn relation column
  return {
    name := conventions.naming.columnMarker column.name
    source := .entity (conventions.naming.property column.name)
    direction
    type }

def entityInputs (relation : Relation) (columns : List Column) : Except Error (List Binding) :=
  columns.mapM (conventions.entityBinding relation .input)

/-- A filter passes a value of the column's type, which is never a missing one. -/
def filterBinding (relation : Relation) (filter : Filter) : Except Error Binding := do
  let type ← conventions.resolve relation filter.column.name filter.column.declaredType
  return ⟨filter.marker, .argument filter.argument, .input, type⟩

def pagingBindings : List Binding :=
  [pageSizeName, pageNumberName].map fun name =>
    ⟨conventions.naming.scalarMarker name, .argument (conventions.naming.argument name), .input,
      pagingType⟩

def parameterBinding (relation : Relation) (parameter : Parameter) : Except Error Binding := do
  let type ← conventions.resolve relation parameter.name parameter.declaredType
  return ⟨parameter.name, .argument (conventions.naming.argument parameter.name), .input, type⟩

/-- Filters and paging scalars of a table, parameters of a function, nothing for a view. -/
def bindReadAll (operation : Operation) : Except Error (List Binding) :=
  match operation.relation with
  | .table table => do
    let filters ← conventions.filters table operation.settings.paging
    let bindings ← filters.mapM (conventions.filterBinding operation.relation)
    return bindings ++ if operation.settings.paging then conventions.pagingBindings else []
  | .view _ => .ok []
  | .function function =>
    function.parameters.mapM (conventions.parameterBinding operation.relation)

def bindKey (operation : Operation) : Except Error (List Binding) := do
  let key ← operation.keyColumns
  conventions.entityInputs operation.relation key

/-- The inserted columns, then the identity as an output. -/
def bindInsert (operation : Operation) : Except Error (List Binding) := do
  let table ← operation.table
  let inputs ← conventions.entityInputs operation.relation (conventions.insertColumns table)
  let outputs ← table.identityColumn?.toList.mapM
    (conventions.entityBinding operation.relation .output)
  return inputs ++ outputs

/-- The updated columns, then the key; a key that is assigned to itself is bound once. -/
def bindUpdate (operation : Operation) : Except Error (List Binding) := do
  let table ← operation.table
  let key ← operation.keyColumns
  let assigned ← conventions.entityInputs operation.relation (conventions.updateColumns table)
  let located ← conventions.entityInputs operation.relation key
  return assigned ++ located

/-- The bindings of an operation. -/
def bind (operation : Operation) : Except Error (List Binding) :=
  match operation.kind with
  | .readAll => conventions.bindReadAll operation
  | .readByKey | .readByUnique | .delete => conventions.bindKey operation
  | .insert => conventions.bindInsert operation
  | .update => conventions.bindUpdate operation

end Conventions

end DataAccess

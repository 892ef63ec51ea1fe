import DataAccess.Method.Conventions
import DataAccess.Sql.Statement

/-!
The statement of each kind of operation. Names come from a validated schema and every value is a
placeholder.
-/
set_option autoImplicit false

namespace DataAccess

open Sql

/-- `select c, ..` and the keyword `from`. -/
def projection (relation : Relation) : Statement :=
  (({} : Statement).keyword "select").list (relation.columns.map (·.name)) "," |>.keyword "from"

namespace Conventions

variable (conventions : Conventions)

/-- `c = @c`. -/
def assignment (column : Column) : String :=
  column.name ++ " = " ++ conventions.columnMarker column

/-- `where c = @c and ..`. -/
def predicate (statement : Statement) (key : List Column) : Statement :=
  (statement.keyword "where").list (key.map conventions.assignment) " and"

/-- `(@m is null or c = @m)`. -/
def filterTerm (filter : Filter) : String :=
  let marker := conventions.dialect.marker filter.marker
  "(" ++ marker ++ " is null or " ++ filter.column.name ++ " = " ++ marker ++ ")"

/-- The filters of a query, if it has any. -/
def filterClause (statement : Statement) (filters : List Filter) : Statement :=
  if filters.isEmpty then statement
  else (statement.keyword "where").list (filters.map conventions.filterTerm) " and"

/-- One page in the order of a column. -/
def pageClause (statement : Statement) (first : Column) : Statement :=
  let size := conventions.scalarMarker pageSizeName
  let number := conventions.scalarMarker pageNumberName
  (statement.keyword "order by").item first.name
    |>.keyword ("offset " ++ size ++ " * (" ++ number ++ " - 1) rows")
    |>.keyword ("fetch next " ++ size ++ " rows only")

/-- `select .. from R`, with filters and a page for a table and with arguments for a function. -/
def renderReadAll (operation : Operation) : Except Error Statement :=
  let start := projection operation.relation
  let name := operation.relation.fullName
  match operation.relation with
  | .table table => do
    let filters ← conventions.filters table operation.settings.paging
    let filtered := conventions.filterClause (start.item name) filters
    if operation.settings.paging then
      match table.columns with
      | [] => .error (.noOrderColumn table.name)
      | first :: _ => .ok (conventions.pageClause filtered first)
    else .ok filtered
  | .view _ => .ok (start.item name)
  | .function function =>
    let arguments := function.parameters.map fun parameter =>
      conventions.dialect.marker parameter.name
    .ok (start.item (name ++ "(" ++ ", ".intercalate arguments ++ ")"))

/-- `select .. from R where k = @k and ..`. -/
def renderReadByKey (operation : Operation) : Except Error Statement := do
  let key ← operation.keyColumns
  return conventions.predicate
    ((projection operation.relation).item operation.relation.fullName) key

/-- `(c, ..) values (@c, ..)`, or default values without columns. -/
def valuesClause (statement : Statement) (columns : List Column) : Statement :=
  if columns.isEmpty then statement.keyword "default values"
  else
    (statement.item "(").list (columns.map (·.name)) "," |>.item ")" |>.keyword "values"
      |>.item "(" |>.list (columns.map conventions.columnMarker) "," |>.item ")"

/-- `insert into R ..`, followed by the clause that reads a generated identity back. -/
def renderInsert (operation : Operation) : Except Error Statement := do
  let table ← operation.table
  let start := (({} : Statement).keyword "insert into").item operation.relation.fullName
  let filled := conventions.valuesClause start (conventions.insertColumns table)
  return match table.identityColumn? with
    | some column =>
      filled.keyword
        (conventions.dialect.identityClause column.name (conventions.columnMarker column))
    | none => filled

/-- The columns that an update assigns: what it writes, or the key itself if it writes none. -/
def assignedColumns (table : Table) (key : List Column) : List Column :=
  let columns := conventions.updateColumns table
  if columns.isEmpty then key else columns

/-- `update R set c = @c, .. where k = @k and ..`. -/
def renderUpdate (operation : Operation) : Except Error Statement := do
  let table ← operation.table
  let key ← operation.keyColumns
  let assigned := (conventions.assignedColumns table key).map conventions.assignment
  let start := (({} : Statement).keyword "update").item operation.relation.fullName
  return conventions.predicate ((start.keyword "set").list assigned ",") key

/-- `delete from R where k = @k and ..`. -/
def renderDelete (operation : Operation) : Except Error Statement := do
  let key ← operation.keyColumns
  return conventions.predicate
    ((({} : Statement).keyword "delete from").item operation.relation.fullName) key

/-- The statement of an operation. -/
def render (operation : Operation) : Except Error Statement :=
  match operation.kind with
  | .readAll => conventions.renderReadAll operation
  | .readByKey | .readByUnique => conventions.renderReadByKey operation
  | .insert => conventions.renderInsert operation
  | .update => conventions.renderUpdate operation
  | .delete => conventions.renderDelete operation

end Conventions

end DataAccess

import DataAccess.ColumnType
import DataAccess.Distinct
import DataAccess.Naming
import DataAccess.Schema.Validity
import DataAccess.Sql.Dialect

/-!
The conventions under which methods are made: names, types, dialect and excluded columns, and
what they say about the columns of a table. Reading all rows of a table can be filtered by its
foreign keys; filter names are kept apart from the paging scalars and from each other.
-/
set_option autoImplicit false

namespace DataAccess

open Sql

/-- The paging scalars before any naming. -/
def pageSizeName : String := "pageSize"

def pageNumberName : String := "pageNumber"

/-- A filter on the column of a foreign key. -/
structure Filter where
  column : Column
  /-- The placeholder without its sigil. -/
  marker : String
  /-- The argument that the caller passes. -/
  argument : String
deriving DecidableEq

structure Conventions where
  naming : Naming
  types : TypeResolver
  dialect : Dialect
  insertExclusions : List String := []
  updateExclusions : List String := []

/-- A name with a number of suffixes that tell a filter from what else has the name. -/
def suffixed (name : String) (count : Nat) : String :=
  name ++ String.join (List.replicate count "Filter")

/-- Whether both names of a filter are new with this number of suffixes. -/
def areFree (taken : List String) (marker argument : String) (count : Nat) : Bool :=
  !taken.contains (suffixed marker count) && !taken.contains (suffixed argument count)

/-- The length of the longest of some names. -/
def longest (names : List String) : Nat :=
  names.foldr (fun name bound => max name.length bound) 0

/-- The least number of suffixes that makes both names of a filter new. A name with more
suffixes than the longest taken name has characters is new, so the search may end there. -/
def suffixCount (taken : List String) (marker argument : String) : Nat :=
  ((List.range (longest taken + 2)).find? (areFree taken marker argument)).getD 0

namespace Naming

/-- What a filter must not be called. -/
def pagingNames (naming : Naming) (paging : Bool) : List String :=
  if paging then
    [pageSizeName, pageNumberName].flatMap fun name =>
      [naming.scalarMarker name, naming.argument name]
  else []

def filter (naming : Naming) (taken : List String) (column : Column) : Filter :=
  let marker := naming.scalarMarker column.name
  let argument := naming.argument column.name
  let count := suffixCount taken marker argument
  ⟨column, suffixed marker count, suffixed argument count⟩

/-- The filters on some columns; each takes its names before those after it. -/
def filtersOn (naming : Naming) : (taken : List String) → List Column → List Filter
  | _, [] => []
  | taken, column :: rest =>
    let filter := naming.filter taken column
    filter :: naming.filtersOn (taken ++ [filter.marker, filter.argument]) rest

end Naming

/-- The column that a filter goes by. -/
def Table.filterColumn (table : Table) (name : String) : Except Error Column :=
  match table.findColumn? name with
  | some column => .ok column
  | none => .error (.unknownColumn table.name name)

/-- The columns of foreign keys with one column, each once, in the order of the keys. -/
def Table.filterColumns (table : Table) : Except Error (List Column) := do
  let columns ← (table.foreignKeys.filterMap (·.singleColumn?)).mapM table.filterColumn
  return distinctBy (·.name) columns

namespace Conventions

/-- The placeholder of a value from the row, with its sigil. -/
def columnMarker (conventions : Conventions) (column : Column) : String :=
  conventions.dialect.marker (conventions.naming.columnMarker column.name)

/-- The placeholder of a value from the caller, with its sigil. -/
def scalarMarker (conventions : Conventions) (name : String) : String :=
  conventions.dialect.marker (conventions.naming.scalarMarker name)

/-- Resolves the declared type of a column or parameter. -/
def resolve (conventions : Conventions) (relation : Relation) (name declared : String) :
    Except Error ResolvedType :=
  match conventions.types declared with
  | some type => .ok type
  | none => .error (.unresolvedType relation.fullName name declared)

/-- The type of a column's value in a row, with room for a missing value where the column
may have none. -/
def resolveColumn (conventions : Conventions) (relation : Relation) (column : Column) :
    Except Error ResolvedType := do
  let type ← conventions.resolve relation column.name column.declaredType
  return if column.nullable then type.nullable else type

/-- The columns an insert writes: all but the identity and the excluded ones. -/
def insertColumns (conventions : Conventions) (table : Table) : List Column :=
  table.columns.filter fun column =>
    table.identity != some column.name && !conventions.insertExclusions.contains column.name

/-- The columns an update writes: all but key, identity and the excluded ones. -/
def updateColumns (conventions : Conventions) (table : Table) : List Column :=
  table.columns.filter fun column =>
    !(table.primaryKey.getD []).contains column.name &&
    table.identity != some column.name && !conventions.updateExclusions.contains column.name

/-- The filters for reading all rows of a table. -/
def filters (conventions : Conventions) (table : Table) (paging : Bool) :
    Except Error (List Filter) := do
  let columns ← table.filterColumns
  return conventions.naming.filtersOn (conventions.naming.pagingNames paging) columns

end Conventions

/-- The columns that an operation looks rows up by: those of its constraint for a lookup by
unique columns, the primary key otherwise. -/
def Operation.keyColumns (operation : Operation) : Except Error (List Column) :=
  match operation.relation with
  | .table table =>
    match operation.kind, operation.unique with
    | .readByUnique, some unique => table.constraintColumns unique.columns
    | _, _ => table.keyColumns
  | relation => .error (.noKeys relation.fullName)

end DataAccess

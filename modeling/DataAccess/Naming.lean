import DataAccess.Casing
import DataAccess.Operation

/-!
Names in generated code, derived from names in the schema. A naming is a record of functions, so
that a project can have its own; the default writes types in `PascalCase`, fields and methods in
`snake_case` and arguments in `camelCase`.
-/
set_option autoImplicit false

namespace DataAccess

/-- Marker names are without the dialect's sigil. -/
structure Naming where
  /-- The row type of a relation. -/
  entity : Relation → String
  /-- The attribute of a row that holds a column's value. -/
  property : (column : String) → String
  /-- The argument that a caller passes a scalar as. -/
  argument : (name : String) → String
  method : Relation → OperationKind → Option Unique → String
  /-- The placeholder of a value that is read from a row. -/
  columnMarker : (column : String) → String
  /-- The placeholder of a value that the caller passes. -/
  scalarMarker : (name : String) → String

/-- The columns of a lookup, as a method name lists them. -/
def lookupSuffix (unique : Option Unique) : String :=
  match unique with
  | some constraint => "_and_".intercalate (constraint.columns.map Casing.snake)
  | none => ""

def methodName (relation : Relation) (kind : OperationKind) (unique : Option Unique) : String :=
  let base := Casing.snake relation.name
  match kind with
  | .readAll => "get_all_" ++ base
  | .readByKey => "get_" ++ base
  | .readByUnique => "get_" ++ base ++ "_by_" ++ lookupSuffix unique
  | .insert => "add_" ++ base
  | .update => "update_" ++ base
  | .delete => "remove_" ++ base

def defaultNaming : Naming where
  entity relation := Casing.pascal relation.name
  property := Casing.snake
  argument := Casing.camel
  method := methodName
  columnMarker := id
  scalarMarker := Casing.camel

end DataAccess

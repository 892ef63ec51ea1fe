import DataAccess.Error
import DataAccess.Settings.Basic

/-!
Operations on relations and which of them a relation's shape permits.

| relation       | operations                                                       |
|----------------|------------------------------------------------------------------|
| table          | read-all, read-by-key*, insert, update*, delete*, read-by-unique+ |
| view, function | read-all                                                         |

A star marks what needs a primary key, a plus what there is for each unique constraint.
-/
set_option autoImplicit false

namespace DataAccess

inductive OperationKind where
  | readAll
  | readByKey
  | readByUnique
  | insert
  | update
  | delete
deriving DecidableEq

namespace OperationKind

def name : OperationKind → String
  | readAll => "read-all"
  | readByKey => "read-by-key"
  | readByUnique => "read-by-unique"
  | insert => "insert"
  | update => "update"
  | delete => "delete"

/-- Writes return the number of affected rows. -/
def isWrite : OperationKind → Bool
  | insert | update | delete => true
  | readAll | readByKey | readByUnique => false

end OperationKind

/-- One operation on one relation. -/
structure Operation where
  kind : OperationKind
  relation : Relation
  /-- The constraint that a lookup by unique columns goes by. -/
  unique : Option Unique := none
  settings : GenerationSettings := {}
deriving DecidableEq

/-- The table that an operation on tables works on. -/
def Operation.table (operation : Operation) : Except Error Table :=
  match operation.relation with
  | .table table => .ok table
  | relation => .error (.notTable relation.fullName)

/-- The kinds of operation on a table, each with its constraint, in order. -/
def Table.operations (table : Table) : List (OperationKind × Option Unique) :=
  let keyed := table.primaryKey.isSome
  [(.readAll, none)] ++
  (if keyed then [(.readByKey, none)] else []) ++
  [(.insert, none)] ++
  (if keyed then [(.update, none), (.delete, none)] else []) ++
  table.uniques.map (fun unique => (.readByUnique, some unique))

/-- The operations of one relation in the order of their methods. -/
def Relation.plan (relation : Relation) (settings : GenerationSettings) : List Operation :=
  match relation with
  | .table t => t.operations.map fun (kind, unique) => { kind, relation, unique, settings }
  | .view _ | .function _ => [{ kind := .readAll, relation, settings }]

/-- The operations of all relations: of tables, then of views, then of functions. -/
def Schema.plan (schema : Schema) (settings : Settings) : List Operation :=
  schema.relations.flatMap fun relation => relation.plan (settings.forRelation relation)

end DataAccess

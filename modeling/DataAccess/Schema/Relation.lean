/-!
The model of a database schema: tables with their keys and constraints, views, and table-valued
functions with their parameters. Column order is significant, since statements list columns in
declaration order.
-/
set_option autoImplicit false

namespace DataAccess

structure Column where
  name : String
  declaredType : String
  nullable : Bool := false
  /-- The position within the relation. -/
  ordinal : Nat := 0
deriving DecidableEq

/-- A unique constraint, possibly over several columns. -/
structure Unique where
  name : Option String := none
  columns : List String
deriving DecidableEq

structure ForeignKey where
  name : Option String := none
  columns : List String
  /-- The relation that the key refers to. -/
  target : String
deriving DecidableEq

/-- The column of a key that consists of one column. -/
def ForeignKey.singleColumn? (key : ForeignKey) : Option String :=
  match key.columns with
  | [column] => some column
  | _ => none

structure Parameter where
  name : String
  declaredType : String
deriving DecidableEq

/-- What relations of every kind have. -/
structure Heading where
  schema : Option String := none
  name : String
  description : Option String := none
  columns : List Column := []
deriving DecidableEq

/-- `schema.name`, or the name alone without a schema. -/
def Heading.fullName (heading : Heading) : String :=
  match heading.schema with
  | some schema => schema ++ "." ++ heading.name
  | none => heading.name

structure Table extends Heading where
  primaryKey : Option (List String) := none
  uniques : List Unique := []
  foreignKeys : List ForeignKey := []
  /-- The column whose value the database generates on insert. -/
  identity : Option String := none
deriving DecidableEq

structure View extends Heading
deriving DecidableEq

structure TableFunction extends Heading where
  parameters : List Parameter := []
deriving DecidableEq

inductive RelationKind where
  | table
  | view
  | tableFunction
deriving DecidableEq

def RelationKind.name : RelationKind → String
  | table => "table"
  | view => "view"
  | tableFunction => "table-function"

inductive Relation where
  | table (table : Table)
  | view (view : View)
  | function (function : TableFunction)
deriving DecidableEq

namespace Relation

def kind : Relation → RelationKind
  | table _ => .table
  | view _ => .view
  | function _ => .tableFunction

def heading : Relation → Heading
  | table t => t.toHeading
  | view v => v.toHeading
  | function f => f.toHeading

def name (relation : Relation) : String := relation.heading.name

def fullName (relation : Relation) : String := relation.heading.fullName

def description (relation : Relation) : Option String := relation.heading.description

def columns (relation : Relation) : List Column := relation.heading.columns

def table? : Relation → Option Table
  | table t => some t
  | _ => none

end Relation

structure Schema where
  tables : List Table := []
  views : List View := []
  functions : List TableFunction := []
deriving DecidableEq

namespace Schema

/-- All relations: tables, then views, then functions, each in declaration order. -/
def relations (schema : Schema) : List Relation :=
  schema.tables.map .table ++ schema.views.map .view ++ schema.functions.map .function

/-- The first relation with this plain or full name. -/
def relation? (schema : Schema) (name : String) : Option Relation :=
  schema.relations.find? fun relation => relation.name == name || relation.fullName == name

end Schema

end DataAccess

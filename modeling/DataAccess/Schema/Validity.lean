import DataAccess.Error
import DataAccess.Schema.Relation

/-!
Well-formed relations: names are plain identifiers, there is at least one column, and every
constraint names columns that exist. The violations of a relation are listed in a fixed order
and the first one is reported.
-/
set_option autoImplicit false

namespace DataAccess

def isIdentifierStart (c : Char) : Bool :=
  c.isAlpha || c == '_'

def isIdentifierChar (c : Char) : Bool :=
  c.isAlphanum || c == '_'

/-- An ASCII letter or underscore followed by ASCII letters, digits and underscores. Only such
names stand in statement text. -/
def isIdentifier (text : String) : Bool :=
  match text.toList with
  | [] => false
  | c :: rest => isIdentifierStart c && rest.all isIdentifierChar

/-- Succeeds if there is no violation and fails with the first otherwise. -/
def firstViolation : List Error → Except Error Unit
  | [] => .ok ()
  | violation :: _ => .error violation

def identifierViolations (text : String) : List Error :=
  if isIdentifier text then [] else [.invalidIdentifier text]

namespace Table

def findColumn? (table : Table) (name : String) : Option Column :=
  table.columns.find? fun column => column.name == name

/-- The columns that a constraint names, in its order. -/
def constraintColumns (table : Table) (names : List String) : Except Error (List Column) :=
  names.mapM fun name =>
    match table.findColumn? name with
    | some column => .ok column
    | none => .error (.unknownColumn table.fullName name)

/-- The columns of the primary key in key order; none without a key. -/
def keyColumns (table : Table) : Except Error (List Column) :=
  match table.primaryKey with
  | some key => table.constraintColumns key
  | none => .ok []

def identityColumn? (table : Table) : Option Column :=
  table.identity.bind table.findColumn?

/-- The constraints in checking order, each with the name it is reported by. -/
def constraints (table : Table) : List (String × List String) :=
  table.primaryKey.toList.map (("primary key", ·)) ++
  table.uniques.map (fun unique => (unique.name.getD "unique", unique.columns)) ++
  table.foreignKeys.map (fun key => (key.name.getD "foreign key", key.columns))

def unknownColumns (table : Table) (names : List String) : List Error :=
  (names.filter fun name => (table.findColumn? name).isNone).map (.unknownColumn table.fullName ·)

def constraintViolations (table : Table) (constraint : String × List String) : List Error :=
  if constraint.2.isEmpty then [.emptyConstraint table.fullName constraint.1]
  else table.unknownColumns constraint.2

end Table

namespace Relation

/-- The violations beyond the heading. -/
def ownViolations : Relation → List Error
  | table t =>
    t.constraints.flatMap t.constraintViolations ++ t.unknownColumns t.identity.toList
  | view _ => []
  | function f => f.parameters.flatMap fun parameter => identifierViolations parameter.name

/-- Everything that is wrong with a relation, in the order of reporting. -/
def violations (relation : Relation) : List Error :=
  relation.heading.schema.toList.flatMap identifierViolations ++
  identifierViolations relation.name ++
  (if relation.columns.isEmpty then [.noColumns relation.fullName] else []) ++
  relation.columns.flatMap (fun column => identifierViolations column.name) ++
  relation.ownViolations

def validate (relation : Relation) : Except Error Unit :=
  firstViolation relation.violations

end Relation

namespace Schema

def validate (schema : Schema) : Except Error Unit :=
  firstViolation (schema.relations.flatMap Relation.violations)

end Schema

/-- Columns numbered by position. -/
def numbered (columns : List Column) : List Column :=
  columns.mapIdx fun position column => { column with ordinal := position }

/-- A parameter name without one leading at sign. -/
def dropAtSign (name : String) : String :=
  match name.toList with
  | '@' :: rest => String.ofList rest
  | _ => name

def Parameter.stripped (parameter : Parameter) : Parameter :=
  { parameter with name := dropAtSign parameter.name }

namespace Schema

/-- The schema with columns numbered and parameter names without an at sign. -/
def numberColumns (schema : Schema) : Schema where
  tables := schema.tables.map fun table => { table with columns := numbered table.columns }
  views := schema.views.map fun view => { view with columns := numbered view.columns }
  functions := schema.functions.map fun function =>
    { function with
      columns := numbered function.columns
      parameters := function.parameters.map Parameter.stripped }

/-- Completes a schema that was read from a document, and checks it. -/
def finish (schema : Schema) : Except Error Schema := do
  let completed := schema.numberColumns
  completed.validate
  return completed

end Schema

end DataAccess

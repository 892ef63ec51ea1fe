import DataAccess.Method.Descriptor
import DataAccess.Method.Rendering
import DataAccess.Sql.Marker

/-!
Synthesis of methods: for each operation the statement and the bindings are made, put together to
a method, and checked against each other. A method is only given out if the placeholders of its
statement, in order of first occurrence, are exactly its bindings.
-/
set_option autoImplicit false

namespace DataAccess

open Sql

/-- The methods of one relation. -/
structure RelationMethods where
  relation : String
  kind : RelationKind
  entity : String
  methods : List Method
deriving DecidableEq

structure Synthesizer where
  settings : Settings := {}
  dialect : Dialect := settings.dialect.dialect
  types : TypeResolver := sqlServerTypes
  naming : Naming := defaultNaming

namespace Synthesizer

variable (synthesizer : Synthesizer)

def conventions : Conventions where
  naming := synthesizer.naming
  types := synthesizer.types
  dialect := synthesizer.dialect
  insertExclusions := synthesizer.settings.insertExclusions
  updateExclusions := synthesizer.settings.updateExclusions

/-- Accepts a method whose placeholders are its bindings. -/
def verify (method : Method) : Except Error Unit :=
  let found := placeholders method.body.query.normalized synthesizer.dialect.sigil
  let bound := method.body.bindings.map (·.name)
  if found = bound then .ok () else .error (.bindingMismatch method.name found bound)

/-- The method of an operation on a relation that is known to be valid. -/
def synthesizeValidated (operation : Operation) : Except Error Method := do
  let statement ← synthesizer.conventions.render operation
  let bindings ← synthesizer.conventions.bind operation
  let method ← synthesizer.conventions.assemble operation statement bindings
  synthesizer.verify method
  return method

/-- The method of one operation, planned or not. -/
def synthesizeOperation (operation : Operation) : Except Error Method := do
  operation.relation.validate
  synthesizer.synthesizeValidated operation

/-- The operations that a relation supports under the settings. -/
def plan (relation : Relation) : List Operation :=
  relation.plan (synthesizer.settings.forRelation relation)

/-- The methods of all operations that a relation supports. -/
def synthesizeRelation (relation : Relation) : Except Error RelationMethods := do
  relation.validate
  let methods ← (synthesizer.plan relation).mapM synthesizer.synthesizeValidated
  return {
    relation := relation.fullName
    kind := relation.kind
    entity := synthesizer.naming.entity relation
    methods }

/-- The methods of all relations: of tables, then of views, then of functions. -/
def synthesizeSchema (schema : Schema) : Except Error (List RelationMethods) :=
  schema.relations.mapM synthesizer.synthesizeRelation

end Synthesizer

end DataAccess

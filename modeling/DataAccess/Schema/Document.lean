import DataAccess.Document.Basic
import DataAccess.Schema.Validity

/-!
Schemas as documents. Keys are in kebab case, and fields with an obvious default may be missing.
The position of a column is not written: it is assigned when a schema is completed.
-/
set_option autoImplicit false

namespace DataAccess

open Document (ofOption text texts list record flag text? texts? flag? listOf?)

def columnLayout : Layout where
  names := ["name", "type", "nullable"]
  aliases := [("typ", "type")]

def Column.document (column : Column) : Document :=
  record [("name", text column.name), ("type", text column.declaredType),
    ("nullable", flag column.nullable)]

def Column.ofDocument? (format : DocumentFormat) (document : Document) : Option Column := do
  let fields ← document.fields? format columnLayout
  return {
    name := ← fields.required "name" text?
    declaredType := ← fields.required "type" text?
    nullable := ← fields.defaulted "nullable" flag? false }

def uniqueLayout : Layout where
  names := ["name", "columns"]

def Unique.document (unique : Unique) : Document :=
  record [("name", ofOption text unique.name), ("columns", texts unique.columns)]

def Unique.ofDocument? (format : DocumentFormat) (document : Document) : Option Unique := do
  let fields ← document.fields? format uniqueLayout
  return {
    name := ← fields.optional "name" text?
    columns := ← fields.required "columns" texts? }

def foreignKeyLayout : Layout where
  names := ["name", "columns", "references"]

def ForeignKey.document (key : ForeignKey) : Document :=
  record [("name", ofOption text key.name), ("columns", texts key.columns),
    ("references", text key.target)]

def ForeignKey.ofDocument? (format : DocumentFormat) (document : Document) : Option ForeignKey := do
  let fields ← document.fields? format foreignKeyLayout
  return {
    name := ← fields.optional "name" text?
    columns := ← fields.required "columns" texts?
    target := ← fields.required "references" text? }

def parameterLayout : Layout where
  names := ["name", "type"]
  aliases := [("typ", "type")]

def Parameter.document (parameter : Parameter) : Document :=
  record [("name", text parameter.name), ("type", text parameter.declaredType)]

def Parameter.ofDocument? (format : DocumentFormat) (document : Document) : Option Parameter := do
  let fields ← document.fields? format parameterLayout
  return {
    name := ← fields.required "name" text?
    declaredType := ← fields.required "type" text? }

/-- The fields that relations of every kind have, before their own. -/
def headingNames : List String := ["schema", "name", "description", "columns"]

def Heading.entries (heading : Heading) : List (String × Document) :=
  [("schema", ofOption text heading.schema), ("name", text heading.name),
    ("description", ofOption text heading.description),
    ("columns", list (heading.columns.map Column.document))]

def Heading.ofFields? (format : DocumentFormat) (fields : Fields) : Option Heading := do
  return {
    schema := ← fields.optional "schema" text?
    name := ← fields.required "name" text?
    description := ← fields.optional "description" text?
    columns := ← fields.required "columns" (listOf? (Column.ofDocument? format)) }

def tableLayout : Layout where
  names := headingNames ++ ["primary-key", "uniques", "foreign-keys", "identity"]

def Table.document (table : Table) : Document :=
  record (table.toHeading.entries ++ [
    ("primary-key", ofOption texts table.primaryKey),
    ("uniques", list (table.uniques.map Unique.document)),
    ("foreign-keys", list (table.foreignKeys.map ForeignKey.document)),
    ("identity", ofOption text table.identity)])

def Table.ofDocument? (format : DocumentFormat) (document : Document) : Option Table := do
  let fields ← document.fields? format tableLayout
  return {
    ← Heading.ofFields? format fields with
    primaryKey := ← fields.optional "primary-key" texts?
    uniques := ← fields.defaulted "uniques" (listOf? (Unique.ofDocument? format)) []
    foreignKeys := ← fields.defaulted "foreign-keys" (listOf? (ForeignKey.ofDocument? format)) []
    identity := ← fields.optional "identity" text? }

def viewLayout : Layout where
  names := headingNames

def View.document (view : View) : Document :=
  record view.toHeading.entries

def View.ofDocument? (format : DocumentFormat) (document : Document) : Option View := do
  let fields ← document.fields? format viewLayout
  return { ← Heading.ofFields? format fields with }

def functionLayout : Layout where
  names := headingNames ++ ["parameters"]

def TableFunction.document (function : TableFunction) : Document :=
  record (function.toHeading.entries ++
    [("parameters", list (function.parameters.map Parameter.document))])

def TableFunction.ofDocument? (format : DocumentFormat) (document : Document) :
    Option TableFunction := do
  let fields ← document.fields? format functionLayout
  return {
    ← Heading.ofFields? format fields with
    parameters := ← fields.defaulted "parameters" (listOf? (Parameter.ofDocument? format)) [] }

namespace Schema

def layout : Layout where
  names := ["tables", "views", "functions"]

def document (schema : Schema) : Document :=
  record [("tables", list (schema.tables.map Table.document)),
    ("views", list (schema.views.map View.document)),
    ("functions", list (schema.functions.map TableFunction.document))]

/-- The schema that a document holds, before it is completed. -/
def ofDocument? (format : DocumentFormat) (document : Document) : Option Schema := do
  let fields ← document.fields? format layout
  return {
    tables := ← fields.defaulted "tables" (listOf? (Table.ofDocument? format)) []
    views := ← fields.defaulted "views" (listOf? (View.ofDocument? format)) []
    functions := ← fields.defaulted "functions" (listOf? (TableFunction.ofDocument? format)) [] }

/-- The completed schema that a document holds. A text that is no document is none. -/
def load (format : DocumentFormat) (document : Option Document) : Except Error Schema :=
  match document.bind (ofDocument? format) with
  | some schema => schema.finish
  | none => .error .malformedSchema

end Schema

end DataAccess

import DataAccess.Schema.Relation

/-!
Relations put together step by step. Each column takes its position from the columns before it,
and parameter names lose their leading at signs.
-/
set_option autoImplicit false

namespace DataAccess

/-- The heading with one more column at the end. -/
def Heading.addColumn (heading : Heading) (name declaredType : String) (nullable : Bool) :
    Heading :=
  { heading with
    columns := heading.columns ++
      [{ name, declaredType, nullable, ordinal := heading.columns.length }] }

/-- One step in the making of a table. -/
inductive TableStep where
  | inSchema (schema : String)
  | column (name declaredType : String)
  | nullableColumn (name declaredType : String)
  | primaryKey (columns : List String)
  | unique (columns : List String)
  | foreignKey (columns : List String) (target : String)
  | identity (column : String)
  | describe (description : String)
deriving DecidableEq

namespace Table

def named (name : String) : Table where
  name := name

def apply (table : Table) : TableStep → Table
  | .inSchema schema => { table with schema := some schema }
  | .column name declaredType =>
    { table with toHeading := table.toHeading.addColumn name declaredType false }
  | .nullableColumn name declaredType =>
    { table with toHeading := table.toHeading.addColumn name declaredType true }
  | .primaryKey columns => { table with primaryKey := some columns }
  | .unique columns => { table with uniques := table.uniques ++ [{ columns }] }
  | .foreignKey columns target =>
    { table with foreignKeys := table.foreignKeys ++ [{ columns, target }] }
  | .identity column => { table with identity := some column }
  | .describe description => { table with description := some description }

def build (name : String) (steps : List TableStep) : Table :=
  steps.foldl apply (named name)

end Table

/-- One step in the making of a view: a column. -/
inductive ViewStep where
  | column (name declaredType : String)
deriving DecidableEq

namespace View

def named (name : String) : View where
  name := name

def apply (view : View) : ViewStep → View
  | .column name declaredType => ⟨view.toHeading.addColumn name declaredType false⟩

def build (name : String) (steps : List ViewStep) : View :=
  steps.foldl apply (named name)

end View

/-- One step in the making of a table-valued function. -/
inductive FunctionStep where
  | column (name declaredType : String)
  | parameter (name declaredType : String)
deriving DecidableEq

/-- A parameter name without its leading at signs. -/
def dropAtSigns (name : String) : String :=
  String.ofList (name.toList.dropWhile (· == '@'))

namespace TableFunction

def named (name : String) : TableFunction where
  name := name

def apply (function : TableFunction) : FunctionStep → TableFunction
  | .column name declaredType =>
    { function with toHeading := function.toHeading.addColumn name declaredType false }
  | .parameter name declaredType =>
    { function with
      parameters := function.parameters ++ [⟨dropAtSigns name, declaredType⟩] }

def build (name : String) (steps : List FunctionStep) : TableFunction :=
  steps.foldl apply (named name)

end TableFunction

end DataAccess

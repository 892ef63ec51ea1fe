import DataAccess.Proofs.Steps
import DataAccess.Schema.Builder
import DataAccess.Schema.Validity

/-!
What a run of steps makes of a relation. The steps tell the contents of the relation: the columns,
uniques, foreign keys and parameters one by one, and everything else with the last step that sets
it. The relation that is built has these contents, with its columns numbered as they came and its
parameters without leading at signs.
-/
set_option autoImplicit false

namespace DataAccess

namespace TableStep

@[simp] def schema? : TableStep → Option String
  | inSchema schema => some schema
  | _ => none

@[simp] def description? : TableStep → Option String
  | describe description => some description
  | _ => none

/-- The column that a step adds, without its position. -/
@[simp] def column? : TableStep → Option Column
  | column name declaredType => some { name, declaredType }
  | nullableColumn name declaredType => some { name, declaredType, nullable := true }
  | _ => none

@[simp] def primaryKey? : TableStep → Option (List String)
  | primaryKey columns => some columns
  | _ => none

@[simp] def unique? : TableStep → Option Unique
  | unique columns => some { columns }
  | _ => none

@[simp] def foreignKey? : TableStep → Option ForeignKey
  | foreignKey columns target => some { columns, target }
  | _ => none

@[simp] def identity? : TableStep → Option String
  | identity name => some name
  | _ => none

end TableStep

@[simp] def ViewStep.column? : ViewStep → Option Column
  | column name declaredType => some { name, declaredType }

namespace FunctionStep

@[simp] def column? : FunctionStep → Option Column
  | column name declaredType => some { name, declaredType }
  | _ => none

/-- The parameter that a step adds, under the name that the step gives it. -/
@[simp] def parameter? : FunctionStep → Option Parameter
  | parameter name declaredType => some ⟨name, declaredType⟩
  | _ => none

end FunctionStep

/-- The contents of a table that steps tell. -/
def Table.told (name : String) (steps : List TableStep) : Table where
  schema := lastOf TableStep.schema? steps
  name := name
  description := lastOf TableStep.description? steps
  columns := steps.filterMap TableStep.column?
  primaryKey := lastOf TableStep.primaryKey? steps
  uniques := steps.filterMap TableStep.unique?
  foreignKeys := steps.filterMap TableStep.foreignKey?
  identity := lastOf TableStep.identity? steps

def View.told (name : String) (steps : List ViewStep) : View where
  name := name
  columns := steps.filterMap ViewStep.column?

def TableFunction.told (name : String) (steps : List FunctionStep) : TableFunction where
  name := name
  columns := steps.filterMap FunctionStep.column?
  parameters := steps.filterMap FunctionStep.parameter?

/-- The parameter without any leading at sign. -/
def Parameter.bare (parameter : Parameter) : Parameter :=
  { parameter with name := dropAtSigns parameter.name }

/-- The table with its columns numbered. -/
def Table.placed (table : Table) : Table :=
  { table with columns := numbered table.columns }

def View.placed (view : View) : View :=
  { view with columns := numbered view.columns }

/-- The function with its columns numbered and its parameters without leading at signs. -/
def TableFunction.placed (function : TableFunction) : TableFunction :=
  { function with
    columns := numbered function.columns
    parameters := function.parameters.map Parameter.bare }

@[simp] theorem numbered_concat (columns : List Column) (column : Column) :
    numbered (columns ++ [column]) =
      numbered columns ++ [{ column with ordinal := columns.length }] :=
  List.mapIdx_concat

@[simp] theorem length_numbered (columns : List Column) :
    (numbered columns).length = columns.length :=
  List.length_mapIdx

/-- A step adds to what has been built what it adds to what has been told. -/
theorem Table.apply_placed (name : String) (steps : List TableStep) (step : TableStep) :
    (told name steps).placed.apply step = (told name (steps ++ [step])).placed := by
  cases step with
  | column | nullableColumn => simp [told, placed, apply, Heading.addColumn]
  | _ => simp [told, placed, apply, List.filterMap_cons]

theorem Table.build_eq (name : String) (steps : List TableStep) :
    build name steps = (told name steps).placed :=
  foldl_eq_made apply (fun steps => (told name steps).placed) (apply_placed name) steps

theorem View.build_eq (name : String) (steps : List ViewStep) :
    build name steps = (told name steps).placed := by
  refine foldl_eq_made apply (fun steps => (told name steps).placed) ?_ steps
  intro steps step
  cases step with
  | column => simp [told, placed, apply, Heading.addColumn]

theorem TableFunction.build_eq (name : String) (steps : List FunctionStep) :
    build name steps = (told name steps).placed := by
  refine foldl_eq_made apply (fun steps => (told name steps).placed) ?_ steps
  intro steps step
  cases step with
  | column => simp [told, placed, apply, Heading.addColumn]
  | parameter => simp [told, placed, apply, Parameter.bare, List.filterMap_cons]

end DataAccess

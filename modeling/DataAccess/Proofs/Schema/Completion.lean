import DataAccess.Proofs.Schema.Building
import DataAccess.Proofs.Schema.WellFormed
import DataAccess.Proofs.Text.Stretches

/-!
Completing a schema. A complete schema has columns that know their positions and parameters without
a leading at sign, and completing it changes nothing but checks it. What is accepted is complete and
like the schema that was given but for these two things, and what is put together step by step is
complete from the start.
-/
set_option autoImplicit false

namespace DataAccess

/-- Columns that know their positions. -/
def Placed (columns : List Column) : Prop :=
  ∀ (position : Nat) (column : Column), columns[position]? = some column →
    column.ordinal = position

/-- A name that does not begin with an at sign. -/
def IsBare (name : String) : Prop :=
  name.toList.head? ≠ some '@'

/-- The column as it is read, before it has a position. -/
def Column.unplaced (column : Column) : Column :=
  { column with ordinal := 0 }

def Heading.unplaced (heading : Heading) : Heading :=
  { heading with columns := heading.columns.map Column.unplaced }

def Table.unplaced (table : Table) : Table :=
  { table with toHeading := table.toHeading.unplaced }

def View.unplaced (view : View) : View :=
  ⟨view.toHeading.unplaced⟩

def TableFunction.unplaced (function : TableFunction) : TableFunction :=
  { function with toHeading := function.toHeading.unplaced }

def Schema.unplaced (schema : Schema) : Schema where
  tables := schema.tables.map Table.unplaced
  views := schema.views.map View.unplaced
  functions := schema.functions.map TableFunction.unplaced

/-- A schema of which nothing is left to complete. -/
structure Schema.Complete (schema : Schema) : Prop where
  placed : ∀ relation ∈ schema.relations, Placed relation.columns
  bare : ∀ function ∈ schema.functions, ∀ parameter ∈ function.parameters, IsBare parameter.name

/-- The same parameter, but an at sign before its name may be gone. -/
structure Parameter.CompletedTo (given completed : Parameter) : Prop where
  declaredType : completed.declaredType = given.declaredType
  name : given.name = completed.name ∨ given.name = "@" ++ completed.name

structure TableFunction.CompletedTo (given completed : TableFunction) : Prop where
  heading : completed.toHeading.unplaced = given.toHeading.unplaced
  parameters : List.Forall₂ Parameter.CompletedTo given.parameters completed.parameters

/-- The same schema but for the positions of columns and an at sign before each parameter. -/
structure Schema.CompletedTo (given completed : Schema) : Prop where
  tables : completed.tables.map Table.unplaced = given.tables.map Table.unplaced
  views : completed.views.map View.unplaced = given.views.map View.unplaced
  functions : List.Forall₂ TableFunction.CompletedTo given.functions completed.functions

/-- A schema of relations that are put together step by step. -/
structure Schema.Built (schema : Schema) : Prop where
  tables : ∀ table ∈ schema.tables, ∃ name steps, table = Table.build name steps
  views : ∀ view ∈ schema.views, ∃ name steps, view = View.build name steps
  functions : ∀ function ∈ schema.functions, ∃ name steps, function = TableFunction.build name steps

section Columns

theorem placed_numbered (columns : List Column) : Placed (numbered columns) := by
  intro position column found
  unfold numbered at found
  rw [List.getElem?_mapIdx, Option.map_eq_some_iff] at found
  obtain ⟨given, -, rfl⟩ := found
  rfl

theorem numbered_of_placed (columns : List Column) (placed : Placed columns) :
    numbered columns = columns := by
  apply List.ext_getElem?
  intro position
  unfold numbered
  rw [List.getElem?_mapIdx]
  cases found : columns[position]? with
  | none => rfl
  | some column => rw [Option.map_some, ← placed position column found]

theorem numbered_unplaced (columns : List Column) :
    numbered (columns.map Column.unplaced) = numbered columns := by
  apply List.ext_getElem
  · simp [numbered]
  · intro position _ _
    simp [numbered, Column.unplaced]

theorem unplaced_numbered (columns : List Column) :
    (numbered columns).map Column.unplaced = columns.map Column.unplaced := by
  apply List.ext_getElem
  · simp
  · intro position _ _
    simp [numbered, Column.unplaced]

end Columns

section Parameters

theorem isBare_of_isIdentifier (name : String) (plain : isIdentifier name = true) :
    IsBare name := by
  intro begins
  unfold isIdentifier at plain
  cases letters : name.toList with
  | nil => simp [letters] at begins
  | cons first rest =>
    rw [letters, List.head?_cons, Option.some.injEq] at begins
    simp [letters, begins, isIdentifierStart] at plain

theorem isBare_dropAtSigns (name : String) : IsBare (dropAtSigns name) := by
  intro begins
  unfold dropAtSigns at begins
  rw [String.toList_ofList] at begins
  have other := Text.head?_dropWhile (· == '@') name.toList '@' begins
  simp at other

theorem dropAtSign_of_isBare (name : String) (bare : IsBare name) : dropAtSign name = name := by
  unfold dropAtSign
  split
  · rename_i rest begins
    exact absurd (by rw [begins, List.head?_cons]) bare
  · rfl

theorem Parameter.completedTo_stripped (parameter : Parameter) :
    parameter.CompletedTo parameter.stripped := by
  refine ⟨rfl, ?_⟩
  change parameter.name = dropAtSign parameter.name ∨
    parameter.name = "@" ++ dropAtSign parameter.name
  unfold dropAtSign
  split
  · rename_i rest begins
    apply Or.inr
    rw [← String.toList_inj, begins]
    simp
  · exact .inl rfl

end Parameters

namespace Schema

/-- There is nothing to change in a complete schema. -/
theorem numberColumns_of_complete (schema : Schema) (complete : schema.Complete) :
    schema.numberColumns = schema := by
  have placed := fun relation member => numbered_of_placed _ (complete.placed relation member)
  have tables : schema.numberColumns.tables = schema.tables := by
    apply map_eq_self
    intro table member
    have same : numbered table.columns = table.columns :=
      placed (.table table) (by simp [relations, member])
    rw [same]
  have views : schema.numberColumns.views = schema.views := by
    apply map_eq_self
    intro view member
    have same : numbered view.columns = view.columns :=
      placed (.view view) (by simp [relations, member])
    rw [same]
  have functions : schema.numberColumns.functions = schema.functions := by
    apply map_eq_self
    intro function member
    have same : numbered function.columns = function.columns :=
      placed (.function function) (by simp [relations, member])
    have kept : function.parameters.map Parameter.stripped = function.parameters := by
      apply map_eq_self
      intro parameter among
      rw [Parameter.stripped, dropAtSign_of_isBare _ (complete.bare function member parameter among)]
    rw [same, kept]
  cases schema
  rw [Schema.mk.injEq]
  exact ⟨tables, views, functions⟩

theorem finish_eq (schema : Schema) :
    schema.finish = schema.numberColumns.validate.map fun _ => schema.numberColumns := by
  change (schema.numberColumns.validate >>= fun _ => pure schema.numberColumns) = _
  cases schema.numberColumns.validate with
  | error violation => rfl
  | ok => rfl

/-- Completing a complete schema is checking it. -/
theorem finish_of_complete (schema : Schema) (complete : schema.Complete) :
    schema.finish = schema.validate.map fun _ => schema := by
  rw [schema.finish_eq, schema.numberColumns_of_complete complete]

theorem numberColumns_unplaced (schema : Schema) :
    schema.unplaced.numberColumns = schema.numberColumns := by
  simp only [numberColumns, unplaced, List.map_map, Function.comp_def, Table.unplaced,
    View.unplaced, TableFunction.unplaced, Heading.unplaced, numbered_unplaced]

theorem completedTo_numberColumns (schema : Schema) :
    schema.CompletedTo schema.numberColumns where
  tables := by
    simp [numberColumns, Table.unplaced, Heading.unplaced, unplaced_numbered]
  views := by
    simp [numberColumns, View.unplaced, Heading.unplaced, unplaced_numbered]
  functions := by
    unfold numberColumns
    rw [List.forall₂_map_right_iff, List.forall₂_same]
    intro function _
    refine ⟨?_, ?_⟩
    · simp [Heading.unplaced, unplaced_numbered]
    · rw [List.forall₂_map_right_iff, List.forall₂_same]
      exact fun parameter _ => parameter.completedTo_stripped

theorem placed_of_numberColumns (schema : Schema) (relation : Relation)
    (member : relation ∈ schema.numberColumns.relations) : Placed relation.columns := by
  simp only [relations, numberColumns, List.map_map, List.mem_append, List.mem_map,
    Function.comp_apply] at member
  rcases member with (⟨table, -, rfl⟩ | ⟨view, -, rfl⟩) | ⟨function, -, rfl⟩
  · exact placed_numbered table.columns
  · exact placed_numbered view.columns
  · exact placed_numbered function.columns

/-- An at sign is left where there were two, and then the schema is not accepted. -/
theorem complete_of_finish (given completed : Schema) (accepted : given.finish = .ok completed) :
    completed.Complete where
  placed := by
    obtain ⟨⟨⟩, -, whole⟩ := (bind_eq_ok_iff _ _ _).1 accepted
    rw [← (pure_eq_ok_iff _ _).1 whole]
    exact given.placed_of_numberColumns
  bare := by
    intro function member parameter among
    have valid := validate_of_finish given completed accepted (.function function)
      (by simp [relations, member])
    exact isBare_of_isIdentifier _ (Relation.parameters_of_validate valid parameter among)

/-- A completed schema is left as it is when it is completed again. -/
theorem finish_of_finish (given completed : Schema) (accepted : given.finish = .ok completed) :
    completed.finish = .ok completed := by
  obtain ⟨⟨⟩, valid, whole⟩ := (bind_eq_ok_iff _ _ _).1 accepted
  have made : given.numberColumns = completed := (pure_eq_ok_iff _ _).1 whole
  rw [completed.finish_of_complete (complete_of_finish given completed accepted), ← made, valid]
  rfl

theorem complete_of_built (schema : Schema) (built : schema.Built) : schema.Complete where
  placed := by
    intro relation member
    simp only [relations, List.mem_append, List.mem_map] at member
    rcases member with (⟨table, among, rfl⟩ | ⟨view, among, rfl⟩) | ⟨function, among, rfl⟩
    · obtain ⟨name, steps, rfl⟩ := built.tables table among
      rw [Table.build_eq]
      exact placed_numbered _
    · obtain ⟨name, steps, rfl⟩ := built.views view among
      rw [View.build_eq]
      exact placed_numbered _
    · obtain ⟨name, steps, rfl⟩ := built.functions function among
      rw [TableFunction.build_eq]
      exact placed_numbered _
  bare := by
    intro function member parameter among
    obtain ⟨name, steps, rfl⟩ := built.functions function member
    rw [TableFunction.build_eq] at among
    obtain ⟨given, -, rfl⟩ := List.mem_map.1 among
    exact isBare_dropAtSigns given.name

/-- Completing a schema is a projection, and what is put together step by step is only checked. -/
theorem finish_projects :
    (∀ given completed : Schema, given.finish = .ok completed →
      completed.Complete ∧ given.CompletedTo completed ∧ completed.finish = .ok completed) ∧
    ∀ schema : Schema, schema.Built →
      (schema.validate = .ok () → schema.finish = .ok schema) ∧
      ∀ error, schema.validate = .error error → schema.finish = .error error := by
  refine ⟨?completes, ?checks⟩
  case completes =>
    intro given completed accepted
    obtain ⟨⟨⟩, -, whole⟩ := (bind_eq_ok_iff _ _ _).1 accepted
    have like : given.CompletedTo completed := by
      rw [← (pure_eq_ok_iff _ _).1 whole]
      exact given.completedTo_numberColumns
    exact ⟨complete_of_finish given completed accepted, like,
      finish_of_finish given completed accepted⟩
  case checks =>
    intro schema built
    rw [schema.finish_of_complete (schema.complete_of_built built)]
    refine ⟨?_, ?_⟩
    · intro valid
      rw [valid]
      rfl
    · intro error refused
      rw [refused]
      rfl

end Schema

/-- A schema that is not completed, with a parameter that is named with an at sign. -/
def shop : Schema where
  tables := [orders]
  functions := [{
    name := "Recent"
    columns := [{ name := "Id", declaredType := "int" }]
    parameters := [⟨"@since", "date"⟩] }]

/-- A schema that is put together step by step, with a table that is keyed by a column. -/
def assembled (key : String) : Schema where
  tables := [Table.build "Orders"
    [.primaryKey [key], .nullableColumn "Note" "nvarchar(50)", .inSchema "shop", .column "Id" "int"]]
  functions := [TableFunction.build "Recent"
    [.column "Id" "int", .parameter "@@since" "date", .column "Note" "nvarchar(50)"]]

/-- A schema that is read, one that is put together, and one that is put together but not valid. -/
theorem Schema.finish_projects_shop :
    (shop.numberColumns.Complete ∧ shop.CompletedTo shop.numberColumns ∧
      shop.numberColumns.finish = .ok shop.numberColumns) ∧
    (assembled "Id").finish = .ok (assembled "Id") ∧
    (assembled "Key").finish = .error (.unknownColumn "shop.Orders" "Key") := by
  have built : ∀ key, (assembled key).Built := by
    intro key
    refine ⟨?_, by simp [assembled], ?_⟩
    · intro table member
      exact ⟨_, _, List.mem_singleton.1 member⟩
    · intro function member
      exact ⟨_, _, List.mem_singleton.1 member⟩
  obtain ⟨completes, checks⟩ := Schema.finish_projects
  refine ⟨?_, ?_, ?_⟩
  · exact completes shop shop.numberColumns (by decide +kernel)
  · exact (checks (assembled "Id") (built "Id")).1 (by decide +kernel)
  · exact (checks (assembled "Key") (built "Key")).2 _ (by decide +kernel)

end DataAccess

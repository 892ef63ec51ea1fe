import Mathlib.Data.List.Nodup
import DataAccess.Proofs.Method.Bindings
import DataAccess.Proofs.Method.Filters
import DataAccess.Proofs.Method.Values

/-!
The types of columns across the methods of a relation. A constraint finds the first column of a
name, while an insert or an update goes through the columns themselves, where a name may come up
again with another type. A method that is given out has no placeholder twice, so what it writes is
the first column of each name as well.
-/
set_option autoImplicit false

namespace DataAccess

/-- The first column of a name. -/
def Relation.findColumn? (relation : Relation) (name : String) : Option Column :=
  relation.columns.find? fun column => column.name == name

/-- The target of a type where a value may be missing or not. -/
def ResolvedType.targetWhere (type : ResolvedType) (nullable : Bool) : String :=
  if nullable then "Option<" ++ type.target ++ ">" else type.target

/-- A binding for the attribute of a column, of the type that is found for the column. -/
structure Conventions.BindsAttribute (conventions : Conventions) (column : Column)
    (binding : Binding) : Prop where
  source : binding.source = .entity (conventions.naming.property column.name)
  type : ∃ found, conventions.types column.declaredType = some found ∧
    binding.type.target = found.targetWhere column.nullable ∧
    binding.type.dbType = found.dbType

/-- Every binding for an attribute is for the first column of its name. -/
def Synthesizer.BindsFirst (synthesizer : Synthesizer) (relation : Relation)
    (methods : List Method) : Prop :=
  ∀ method ∈ methods, ∀ binding ∈ method.body.bindings, binding.IsOfRow →
    ∃ column, relation.findColumn? binding.name = some column ∧
      synthesizer.conventions.BindsAttribute column binding

/-- A filter on a column has the column's own type, which has room for a missing value only where
the column is bound as an attribute. -/
structure Synthesizer.FiltersBy (synthesizer : Synthesizer) (relation : Relation)
    (methods : List Method) (filter : Filter) (scalar : Scalar) : Prop where
  narrows : synthesizer.conventions.Narrows filter scalar
  first : relation.findColumn? filter.column.name = some filter.column
  alike : ∀ method ∈ methods, ∀ binding ∈ method.body.bindings, binding.IsOfRow →
    binding.name = filter.column.name →
      binding.type.target = scalar.type.targetWhere filter.column.nullable ∧
        binding.type.dbType = scalar.type.dbType

/-- Methods in which each column has one attribute and one type. -/
structure Synthesizer.TypesOnce (synthesizer : Synthesizer) (relation : Relation)
    (methods : List Method) : Prop where
  first : synthesizer.BindsFirst relation methods
  /-- Bindings of one name agree, in one method or in two. -/
  once : ∀ method ∈ methods, ∀ other ∈ methods,
    ∀ binding ∈ method.body.bindings, ∀ twin ∈ other.body.bindings,
      binding.IsOfRow → twin.IsOfRow → binding.name = twin.name →
        binding.source = twin.source ∧ binding.type = twin.type
  filtered : ∀ table, relation = .table table →
    ∀ method ∈ methods, method.kind = .readAll → ∃ filters scalars,
      synthesizer.conventions.filters table (synthesizer.settings.forRelation relation).paging =
        .ok filters ∧
      method.body.bindings = scalars.map (·.binding) ++
        (if (synthesizer.settings.forRelation relation).paging then
          synthesizer.conventions.pagingBindings else []) ∧
      List.Forall₂ (synthesizer.FiltersBy relation methods) filters scalars

section First

variable {table : Table}

theorem Table.findColumn?_of_mem_columnsNamed (names : List String) (column : Column)
    (member : column ∈ table.columnsNamed names) :
    table.findColumn? column.name = some column := by
  obtain ⟨name, -, found⟩ := List.mem_filterMap.1 member
  rwa [(table.of_findColumn? name column found).2]

/-- Columns that are kept for their names are the first of their names if their placeholders
differ, since all columns of a name are kept together. -/
theorem Table.findColumn?_of_mem_filter (keep : String → Bool) (marker : String → String)
    (column : Column) (member : column ∈ table.columns.filter fun other => keep other.name)
    (distinct : ((table.columns.filter fun other => keep other.name).map
      fun other => marker other.name).Nodup) :
    table.findColumn? column.name = some column := by
  obtain ⟨inside, kept⟩ := List.mem_filter.1 member
  obtain ⟨first, found⟩ : ∃ first, table.findColumn? column.name = some first := by
    rw [← Option.isSome_iff_exists, findColumn?, List.find?_isSome]
    exact ⟨column, inside, by simp⟩
  obtain ⟨among, same⟩ := table.of_findColumn? column.name first found
  have also : first ∈ table.columns.filter fun other => keep other.name :=
    List.mem_filter.2 ⟨among, by rw [same]; exact kept⟩
  rw [found, List.inj_on_of_nodup_map distinct also member (congrArg marker same)]

end First

namespace Conventions

variable {conventions : Conventions}

/-- The columns that a statement mentions are the first of their names if its placeholders
differ. -/
theorem findColumn?_of_mem_shape (operation : Operation) (table : Table)
    (onTable : operation.relation = .table table)
    (distinct : (conventions.bound (conventions.shape operation)).Nodup) (column : Column)
    (member : column ∈ (conventions.shape operation).columns) :
    table.findColumn? column.name = some column := by
  cases kind : operation.kind with
  | readAll =>
    simp only [shape, onTable, kind, Shape.columns] at member
    rcases List.mem_append.1 member with filtered | ordered
    · rw [conventions.naming.map_column_filtersOn] at filtered
      exact table.findColumn?_of_mem_columnsNamed _ column filtered
    · cases paging : operation.settings.paging with
      | false => simp [paging] at ordered
      | true =>
        simp only [paging, ↓reduceIte, Option.mem_toList] at ordered
        obtain ⟨rest, columns⟩ := List.head?_eq_some_iff.1 ordered
        simp [Table.findColumn?, columns]
  | readByKey | readByUnique | delete =>
    simp only [shape, onTable, kind, Shape.columns] at member
    exact table.findColumn?_of_mem_columnsNamed _ column member
  | insert =>
    simp only [shape, onTable, kind, Shape.columns, bound] at member distinct
    rcases List.mem_append.1 member with written | generated
    · exact table.findColumn?_of_mem_filter (fun name => table.identity ≠ some name ∧
        name ∉ conventions.insertExclusions) _ column written distinct.of_append_left
    · obtain ⟨name, -, found⟩ :=
        (table.identityColumn?_eq_some_iff column).1 (by simpa using generated)
      rwa [(table.of_findColumn? name column found).2]
  | update =>
    simp only [shape, onTable, kind, Shape.columns, bound] at member distinct
    rcases List.mem_append.1 member with written | located
    · exact table.findColumn?_of_mem_filter (fun name =>
        name ∉ table.keyNames ∧ table.identity ≠ some name ∧
          name ∉ conventions.updateExclusions) _ column written distinct.of_append_left
    · exact table.findColumn?_of_mem_columnsNamed _ column located

/-- Only the placeholders of columns have their values in the row. -/
theorem Fills.exists_column {relation : Relation} {shape : Shape} {bindings : List Binding}
    (filled : conventions.Fills relation shape bindings) (binding : Binding)
    (member : binding ∈ bindings) (ofRow : binding.IsOfRow) :
    ∃ column ∈ shape.columns, ∃ direction,
      conventions.BindsColumn relation direction column binding := by
  have argument : ∀ scalars : List Scalar, binding ∉ scalars.map (·.binding) := by
    intro scalars among
    obtain ⟨scalar, -, rfl⟩ := List.mem_map.1 among
    obtain ⟨property, source⟩ := ofRow
    cases source
  cases filled with
  | whole => cases member
  | @rows filters scalars order narrow =>
    rcases List.mem_append.1 member with filtered | paged
    · exact absurd filtered (argument scalars)
    · cases order with
      | none => cases paged
      | some first => exact absurd paged (argument [⟨_, _, pagingType⟩, ⟨_, _, pagingType⟩])
  | @call parameters scalars supply => exact absurd member (argument scalars)
  | lookup located | delete located =>
    obtain ⟨column, among, binds⟩ := exists_of_mem_forall₂ located binding member
    exact ⟨column, among, .input, binds⟩
  | insert written generated =>
    rcases List.mem_append.1 member with input | output
    · obtain ⟨column, among, binds⟩ := exists_of_mem_forall₂ written binding input
      exact ⟨column, List.mem_append_left _ among, .input, binds⟩
    · obtain ⟨column, among, binds⟩ := exists_of_mem_forall₂ generated binding output
      exact ⟨column, List.mem_append_right _ among, .output, binds⟩
  | update writes locates =>
    rcases List.mem_append.1 member with assigned | located
    · obtain ⟨column, among, binds⟩ := exists_of_mem_forall₂ writes binding assigned
      exact ⟨column, List.mem_append_left _ among, .input, binds⟩
    · obtain ⟨column, among, binds⟩ := exists_of_mem_forall₂ locates binding located
      exact ⟨column, List.mem_append_right _ among, .input, binds⟩

theorem BindsColumn.bindsAttribute {relation : Relation} {direction : Direction} {column : Column}
    {binding : Binding} (binds : conventions.BindsColumn relation direction column binding) :
    conventions.BindsAttribute column binding where
  source := binds.source
  type := by
    obtain ⟨found, known, type⟩ :=
      (conventions.resolveColumn_eq_ok_iff relation column binding.type).1 binds.type
    refine ⟨found, known, ?_⟩
    rw [type, ResolvedType.targetWhere]
    split <;> exact ⟨rfl, rfl⟩

/-- A column has one attribute and one type. -/
theorem BindsAttribute.eq {column : Column} {binding twin : Binding}
    (first : conventions.BindsAttribute column binding)
    (second : conventions.BindsAttribute column twin) :
    binding.source = twin.source ∧ binding.type = twin.type := by
  obtain ⟨found, resolved, target, tag⟩ := first.type
  obtain ⟨other, again, twinTarget, twinTag⟩ := second.type
  obtain rfl : found = other := Option.some.inj (resolved.symm.trans again)
  refine ⟨first.source.trans second.source.symm, ?_⟩
  rw [ResolvedType.mk.injEq]
  exact ⟨target.trans twinTarget.symm, tag.trans twinTag.symm⟩

/-- Where a column of a filter is bound as an attribute, only the room for a missing value is
added. -/
theorem BindsAttribute.alike {filter : Filter} {scalar : Scalar} {binding : Binding}
    (binds : conventions.BindsAttribute filter.column binding)
    (narrows : conventions.Narrows filter scalar) :
    binding.type.target = scalar.type.targetWhere filter.column.nullable ∧
      binding.type.dbType = scalar.type.dbType := by
  obtain ⟨found, resolved, type⟩ := binds.type
  obtain rfl : found = scalar.type := Option.some.inj (resolved.symm.trans narrows.type)
  exact type

/-- A filter goes by the first column of a name. -/
theorem findColumn?_of_mem_filters (table : Table) (keyed : table.WellKeyed) (paging : Bool)
    (filters : List Filter) (found : conventions.filters table paging = .ok filters)
    (filter : Filter) (member : filter ∈ filters) :
    table.findColumn? filter.column.name = some filter.column := by
  rw [conventions.filters_eq keyed, Except.ok.injEq] at found
  subst found
  exact table.findColumn?_of_mem_columnsNamed _ filter.column
    (conventions.naming.column_mem_of_mem_filtersOn _ _ filter member)

end Conventions

namespace Synthesizer

variable {synthesizer : Synthesizer}

/-- The placeholders of a method that is given out differ, and its bindings fill its shape. -/
theorem fills_of_synthesizeValidated (operation : Operation) (method : Method)
    (valid : operation.relation.validate = .ok ())
    (synthesized : synthesizer.synthesizeValidated operation = .ok method) :
    synthesizer.conventions.bind operation = .ok method.body.bindings ∧
      synthesizer.conventions.Fills operation.relation
        (synthesizer.conventions.shape operation) method.body.bindings ∧
      (synthesizer.conventions.bound (synthesizer.conventions.shape operation)).Nodup := by
  obtain ⟨statement, bindings, rendered, bound, carries, checked⟩ :=
    synthesizer.exists_of_synthesizeValidated operation method synthesized
  obtain rfl := carries.bindings
  have grounded := Conventions.isGrounded_of_render _ operation statement valid rendered
  refine ⟨bound, Conventions.fills_of_bind _ operation grounded _ bound, ?_⟩
  have names := (synthesizer.conventions.binds_operation operation grounded).names _ bound
  rw [← names, ← Method.boundNames, ← checked]
  exact nodup_distinct _

/-- A binding for an attribute is for the first column of its name. -/
theorem exists_bindsAttribute (standard : synthesizer.naming = defaultNaming)
    (operation : Operation) (method : Method) (valid : operation.relation.validate = .ok ())
    (synthesized : synthesizer.synthesizeValidated operation = .ok method)
    (binding : Binding) (member : binding ∈ method.body.bindings) (ofRow : binding.IsOfRow) :
    ∃ column, operation.relation.findColumn? binding.name = some column ∧
      synthesizer.conventions.BindsAttribute column binding := by
  obtain ⟨-, filled, distinct⟩ := fills_of_synthesizeValidated operation method valid synthesized
  obtain ⟨column, among, direction, binds⟩ := filled.exists_column binding member ofRow
  have name : binding.name = column.name := by
    rw [binds.name, conventions, standard]
    rfl
  refine ⟨column, ?_, binds.bindsAttribute⟩
  cases onRelation : operation.relation with
  | table table =>
    rw [name]
    exact Conventions.findColumn?_of_mem_shape operation table onRelation distinct column among
  | view view | function function => simp [Conventions.shape, onRelation, Shape.columns] at among

/-- Reading all rows is filtered by columns that have the same type wherever they are bound. -/
theorem exists_filtersBy (operation : Operation) (table : Table) (method : Method)
    (methods : List Method) (onTable : operation.relation = .table table)
    (valid : operation.relation.validate = .ok ()) (kind : operation.kind = .readAll)
    (synthesized : synthesizer.synthesizeValidated operation = .ok method)
    (first : synthesizer.BindsFirst operation.relation methods) :
    ∃ filters scalars,
      synthesizer.conventions.filters table operation.settings.paging = .ok filters ∧
      method.body.bindings = scalars.map (·.binding) ++
        (if operation.settings.paging then synthesizer.conventions.pagingBindings else []) ∧
      List.Forall₂ (synthesizer.FiltersBy operation.relation methods) filters scalars := by
  obtain ⟨bound, -, -⟩ := fills_of_synthesizeValidated operation method valid synthesized
  obtain ⟨filters, scalars, found, whole, narrow⟩ :=
    Conventions.exists_filters_of_bind _ operation table onTable kind _ bound
  have keyed := Relation.wellKeyed_of_validate (onTable ▸ valid)
  have named : ∀ filter ∈ filters,
      operation.relation.findColumn? filter.column.name = some filter.column := by
    rw [onTable]
    exact Conventions.findColumn?_of_mem_filters table keyed _ filters found
  refine ⟨filters, scalars, found, whole, ?_⟩
  refine ((List.forall₂_and_left filters scalars).2 ⟨named, narrow⟩).imp ?_
  rintro filter scalar ⟨located, narrows⟩
  refine ⟨narrows, located, ?_⟩
  intro other also binding among ofRow name
  obtain ⟨column, again, binds⟩ := first other also binding among ofRow
  obtain rfl : column = filter.column := Option.some.inj (again.symm.trans (name ▸ located))
  exact binds.alike narrows

/-- Every column of a relation has one attribute and one type in all methods. -/
theorem typesOnce_of_synthesizeRelation (synthesizer : Synthesizer) (relation : Relation)
    (whole : RelationMethods) (standard : synthesizer.naming = defaultNaming)
    (synthesized : synthesizer.synthesizeRelation relation = .ok whole) :
    synthesizer.TypesOnce relation whole.methods := by
  obtain ⟨⟨⟩, valid, later⟩ := (bind_eq_ok_iff _ _ _).1 synthesized
  obtain ⟨methods, made, finished⟩ := (bind_eq_ok_iff _ _ _).1 later
  obtain rfl := (pure_eq_ok_iff _ _).1 finished
  have planned : ∀ method ∈ methods, ∃ operation, operation.relation = relation ∧
      operation.settings = synthesizer.settings.forRelation relation ∧
      synthesizer.synthesizeValidated operation = .ok method := by
    intro method member
    obtain ⟨operation, planned, single⟩ := exists_of_mem_mapM _ _ methods made method member
    obtain ⟨same, settings⟩ := of_mem_plan relation planned
    exact ⟨operation, same, settings, single⟩
  have first : synthesizer.BindsFirst relation methods := by
    intro method member binding among ofRow
    obtain ⟨operation, rfl, -, single⟩ := planned method member
    exact exists_bindsAttribute standard operation method valid single binding among ofRow
  refine ⟨first, ?_, ?_⟩
  · intro method member other also binding among twin amongOther ofRow twinOfRow name
    obtain ⟨column, found, binds⟩ := first method member binding among ofRow
    obtain ⟨same, again, bindsTwin⟩ := first other also twin amongOther twinOfRow
    obtain rfl : column = same := Option.some.inj (found.symm.trans (name ▸ again))
    exact binds.eq bindsTwin
  · intro table onTable method member readAll
    obtain ⟨operation, rfl, settings, single⟩ := planned method member
    obtain ⟨statement, bindings, -, -, assembled, -⟩ :=
      (synthesizer.synthesizeValidated_eq_ok_iff operation method).1 single
    obtain ⟨kind, -⟩ := Conventions.exists_of_assemble _ _ _ _ _ assembled
    rw [← settings]
    exact exists_filtersBy operation table method methods onTable valid (kind.symm.trans readAll)
      single first

/-- A table with two columns of one name and of different types. -/
def readings : Table where
  name := "Readings"
  columns := [
    { name := "Id", declaredType := "int" },
    { name := "Value", declaredType := "decimal(9,2)", nullable := true },
    { name := "Value", declaredType := "nvarchar(20)" }]
  primaryKey := some ["Id"]
  uniques := [{ columns := ["Value"] }]
  foreignKeys := [{ columns := ["Value"], target := "Values" }]

/-- A synthesizer of methods that write no values. -/
def keepingValues : Synthesizer where
  settings := { insertExclusions := ["Value"], updateExclusions := ["Value"] }

/-- The nullable column is bound with room for a missing value and filtered by without it. -/
theorem typesOnce_of_synthesizeRelation_readings :
    ∃ whole, keepingValues.synthesizeRelation (.table readings) = .ok whole ∧
      (whole.methods.map fun method =>
        method.body.bindings.map fun binding => (binding.name, binding.type)) =
        [[("value", ⟨"Decimal", .decimal⟩)], [("Id", ⟨"i32", .int32⟩)], [("Id", ⟨"i32", .int32⟩)],
          [("Id", ⟨"i32", .int32⟩)], [("Id", ⟨"i32", .int32⟩)],
          [("Value", ⟨"Option<Decimal>", .decimal⟩)]] ∧
      keepingValues.TypesOnce (.table readings) whole.methods := by
  obtain ⟨whole, synthesized, types⟩ := exists_eq_ok_of_any
    (keepingValues.synthesizeRelation (.table readings))
    (fun whole => (whole.methods.map fun method =>
      method.body.bindings.map fun binding => (binding.name, binding.type)) ==
        [[("value", ⟨"Decimal", .decimal⟩)], [("Id", ⟨"i32", .int32⟩)], [("Id", ⟨"i32", .int32⟩)],
          [("Id", ⟨"i32", .int32⟩)], [("Id", ⟨"i32", .int32⟩)],
          [("Value", ⟨"Option<Decimal>", .decimal⟩)]])
    (by decide +kernel)
  exact ⟨whole, synthesized, beq_iff_eq.1 types,
    typesOnce_of_synthesizeRelation keepingValues _ whole rfl synthesized⟩

end Synthesizer

end DataAccess

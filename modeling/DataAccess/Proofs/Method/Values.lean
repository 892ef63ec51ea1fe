import DataAccess.Method.Descriptor
import DataAccess.Proofs.Method.Shapes

/-!
The values of placeholders. A binding takes the attribute of a column or a scalar that the caller
passes, and it has the type that the column or the parameter declares. Which bindings there are,
and what the caller has to pass for them, is a matter of the shape.
-/
set_option autoImplicit false

namespace DataAccess

/-- A value that the caller passes for a placeholder, as an argument and of a type. -/
structure Scalar where
  marker : String
  argument : String
  type : ResolvedType
deriving DecidableEq

def Scalar.binding (scalar : Scalar) : Binding :=
  ⟨scalar.marker, .argument scalar.argument, .input, scalar.type⟩

def Scalar.parameter (optional : Bool) (default : Option DefaultValue) (scalar : Scalar) :
    CallerParameter :=
  ⟨scalar.argument, .scalar scalar.type.target optional, default⟩

/-- A binding that takes or fills an attribute of the row. -/
def Binding.IsOfRow (binding : Binding) : Prop :=
  ∃ property, binding.source = .entity property

/-- Whether the values of a statement come from a row. -/
def Shape.isOfRow : Shape → Bool
  | .lookup _ | .insert .. | .update .. | .delete _ => true
  | .rows .. | .whole | .call _ => false

namespace Conventions

variable (conventions : Conventions) (relation : Relation)

/-- A binding for the value of a column. -/
structure BindsColumn (direction : Direction) (column : Column) (binding : Binding) : Prop where
  name : binding.name = conventions.naming.columnMarker column.name
  source : binding.source = .entity (conventions.naming.property column.name)
  direction : binding.direction = direction
  type : conventions.resolveColumn relation column = .ok binding.type

/-- A scalar for a filter, of the type of its column. -/
structure Narrows (filter : Filter) (scalar : Scalar) : Prop where
  marker : scalar.marker = filter.marker
  argument : scalar.argument = filter.argument
  type : conventions.types filter.column.declaredType = some scalar.type

/-- A scalar for a declared parameter. -/
structure Supplies (parameter : Parameter) (scalar : Scalar) : Prop where
  marker : scalar.marker = parameter.name
  argument : scalar.argument = conventions.naming.argument parameter.name
  type : conventions.types parameter.declaredType = some scalar.type

/-- Bindings for all placeholders of a shape. -/
inductive Fills : Shape → List Binding → Prop where
  | rows {filters : List Filter} {scalars : List Scalar} (order : Option Column)
    (narrow : List.Forall₂ conventions.Narrows filters scalars) :
    Fills (.rows filters order)
      (scalars.map (·.binding) ++ if order.isSome then conventions.pagingBindings else [])
  | whole : Fills .whole []
  | call {parameters : List Parameter} {scalars : List Scalar}
    (supply : List.Forall₂ conventions.Supplies parameters scalars) :
    Fills (.call parameters) (scalars.map (·.binding))
  | lookup {key : List Column} {bindings : List Binding}
    (located : List.Forall₂ (conventions.BindsColumn relation .input) key bindings) :
    Fills (.lookup key) bindings
  | insert {columns : List Column} {identity : Option Column} {inputs outputs : List Binding}
    (written : List.Forall₂ (conventions.BindsColumn relation .input) columns inputs)
    (generated : List.Forall₂ (conventions.BindsColumn relation .output)
      identity.toList outputs) :
    Fills (.insert columns identity) (inputs ++ outputs)
  | update {written key : List Column} {assigned located : List Binding}
    (writes : List.Forall₂ (conventions.BindsColumn relation .input) written assigned)
    (locates : List.Forall₂ (conventions.BindsColumn relation .input) key located) :
    Fills (.update written key) (assigned ++ located)
  | delete {key : List Column} {bindings : List Binding}
    (located : List.Forall₂ (conventions.BindsColumn relation .input) key bindings) :
    Fills (.delete key) bindings

/-- What a caller passes for a shape: scalars to read all rows, or the row itself. -/
inductive Takes (row : CallerParameter) : Shape → List CallerParameter → Prop where
  | rows {filters : List Filter} {scalars : List Scalar} (order : Option Column)
    (narrow : List.Forall₂ conventions.Narrows filters scalars) :
    Takes row (.rows filters order)
      ((if order.isSome then conventions.pagingParameters else []) ++
        scalars.map (·.parameter true (some .null)))
  | whole : Takes row .whole []
  | call {parameters : List Parameter} {scalars : List Scalar}
    (supply : List.Forall₂ conventions.Supplies parameters scalars) :
    Takes row (.call parameters) (scalars.map (·.parameter false none))
  | lookup (key : List Column) : Takes row (.lookup key) [row]
  | insert (columns : List Column) (identity : Option Column) :
    Takes row (.insert columns identity) [row]
  | update (written key : List Column) : Takes row (.update written key) [row]
  | delete (key : List Column) : Takes row (.delete key) [row]

section Types

theorem resolve_eq_ok_iff (name declared : String) (type : ResolvedType) :
    conventions.resolve relation name declared = .ok type ↔
      conventions.types declared = some type := by
  rw [resolve]
  cases conventions.types declared with
  | none => simp
  | some found => simp

/-- The value of a column has the declared type, with room for a missing value where the column
may have none. -/
theorem resolveColumn_eq_ok_iff (column : Column) (type : ResolvedType) :
    conventions.resolveColumn relation column = .ok type ↔
      ∃ found, conventions.types column.declaredType = some found ∧
        type = if column.nullable then found.nullable else found := by
  simp only [resolveColumn, bind_eq_ok_iff, resolve_eq_ok_iff, pure_eq_ok_iff]
  exact exists_congr fun found => and_congr_right fun _ => eq_comm

/-- The type that is found for a filter makes it a scalar. -/
theorem narrows_iff (filter : Filter) (scalar : Scalar) :
    conventions.Narrows filter scalar ↔
      ∃ type, conventions.types filter.column.declaredType = some type ∧
        ⟨filter.marker, filter.argument, type⟩ = scalar := by
  constructor
  · rintro ⟨marker, argument, type⟩
    exact ⟨scalar.type, type, by rw [← marker, ← argument]⟩
  · rintro ⟨type, found, rfl⟩
    exact ⟨rfl, rfl, found⟩

theorem supplies_iff (parameter : Parameter) (scalar : Scalar) :
    conventions.Supplies parameter scalar ↔
      ∃ type, conventions.types parameter.declaredType = some type ∧
        ⟨parameter.name, conventions.naming.argument parameter.name, type⟩ = scalar := by
  constructor
  · rintro ⟨marker, argument, type⟩
    exact ⟨scalar.type, type, by rw [← argument, ← marker]⟩
  · rintro ⟨type, found, rfl⟩
    exact ⟨rfl, rfl, found⟩

end Types

section Steps

theorem entityBinding_eq_ok_iff (direction : Direction) (column : Column) (binding : Binding) :
    conventions.entityBinding relation direction column = .ok binding ↔
      conventions.BindsColumn relation direction column binding := by
  rw [entityBinding, bind_eq_ok_iff]
  constructor
  · rintro ⟨type, resolved, made⟩
    rw [← (pure_eq_ok_iff _ _).1 made]
    exact ⟨rfl, rfl, rfl, resolved⟩
  · rintro ⟨name, source, direction, type⟩
    refine ⟨binding.type, type, ?_⟩
    rw [pure_eq_ok_iff, ← name, ← source, ← direction]

theorem mapM_entityBinding_eq_ok_iff (direction : Direction) (columns : List Column)
    (bindings : List Binding) :
    columns.mapM (conventions.entityBinding relation direction) = .ok bindings ↔
      List.Forall₂ (conventions.BindsColumn relation direction) columns bindings := by
  simp only [mapM_eq_ok_iff, entityBinding_eq_ok_iff]

/-- The bindings of filters are those of the scalars that are found for them. -/
theorem mapM_filterBinding_eq_ok_iff (filters : List Filter) (bindings : List Binding) :
    filters.mapM (conventions.filterBinding relation) = .ok bindings ↔
      ∃ scalars, List.Forall₂ conventions.Narrows filters scalars ∧
        scalars.map (·.binding) = bindings := by
  apply mapM_eq_ok_iff_exists_map
  intro filter binding
  simp only [filterBinding, bind_eq_ok_iff, resolve_eq_ok_iff, pure_eq_ok_iff, narrows_iff,
    exists_exists_and_eq_and]
  rfl

/-- The parameters for filters are those of the same scalars. -/
theorem mapM_filterParameter_eq_ok_iff (filters : List Filter)
    (parameters : List CallerParameter) :
    filters.mapM (conventions.filterParameter relation) = .ok parameters ↔
      ∃ scalars, List.Forall₂ conventions.Narrows filters scalars ∧
        scalars.map (·.parameter true (some .null)) = parameters := by
  apply mapM_eq_ok_iff_exists_map
  intro filter parameter
  simp only [filterParameter, bind_eq_ok_iff, resolve_eq_ok_iff, pure_eq_ok_iff, narrows_iff,
    exists_exists_and_eq_and]
  rfl

theorem mapM_parameterBinding_eq_ok_iff (declared : List Parameter) (bindings : List Binding) :
    declared.mapM (conventions.parameterBinding relation) = .ok bindings ↔
      ∃ scalars, List.Forall₂ conventions.Supplies declared scalars ∧
        scalars.map (·.binding) = bindings := by
  apply mapM_eq_ok_iff_exists_map
  intro parameter binding
  simp only [parameterBinding, bind_eq_ok_iff, resolve_eq_ok_iff, pure_eq_ok_iff, supplies_iff,
    exists_exists_and_eq_and]
  rfl

theorem mapM_functionParameter_eq_ok_iff (declared : List Parameter)
    (parameters : List CallerParameter) :
    declared.mapM (conventions.functionParameter relation) = .ok parameters ↔
      ∃ scalars, List.Forall₂ conventions.Supplies declared scalars ∧
        scalars.map (·.parameter false none) = parameters := by
  apply mapM_eq_ok_iff_exists_map
  intro given parameter
  simp only [functionParameter, bind_eq_ok_iff, resolve_eq_ok_iff, pure_eq_ok_iff, supplies_iff,
    exists_exists_and_eq_and]
  rfl

/-- The bindings of reading all rows of a table are those of its filters and of the page. -/
theorem exists_filters_of_bind (operation : Operation) (table : Table)
    (onTable : operation.relation = .table table) (kind : operation.kind = .readAll)
    (bindings : List Binding) (bound : conventions.bind operation = .ok bindings) :
    ∃ filters scalars, conventions.filters table operation.settings.paging = .ok filters ∧
      bindings = scalars.map (·.binding) ++
        (if operation.settings.paging then conventions.pagingBindings else []) ∧
      List.Forall₂ conventions.Narrows filters scalars := by
  simp only [bind, kind, bindReadAll, onTable, bind_eq_ok_iff, pure_eq_ok_iff,
    mapM_filterBinding_eq_ok_iff] at bound
  obtain ⟨filters, found, filtered, ⟨scalars, narrow, rfl⟩, rfl⟩ := bound
  exact ⟨filters, scalars, found, rfl, narrow⟩

/-- The parameters are those of the page and then those of the same filters. -/
theorem exists_filters_of_readAllParameters (operation : Operation) (table : Table)
    (onTable : operation.relation = .table table) (parameters : List CallerParameter)
    (passed : conventions.readAllParameters operation = .ok parameters) :
    ∃ filters scalars, conventions.filters table operation.settings.paging = .ok filters ∧
      parameters = (if operation.settings.paging then conventions.pagingParameters else []) ++
        scalars.map (·.parameter true (some .null)) ∧
      List.Forall₂ conventions.Narrows filters scalars := by
  simp only [readAllParameters, onTable, bind_eq_ok_iff, pure_eq_ok_iff,
    mapM_filterParameter_eq_ok_iff] at passed
  obtain ⟨filters, found, filtered, ⟨scalars, narrow, rfl⟩, rfl⟩ := passed
  exact ⟨filters, scalars, found, rfl, narrow⟩

end Steps

/-- The bindings of a grounded operation fill its shape. -/
theorem fills_of_bind (operation : Operation) (grounded : operation.IsGrounded)
    (bindings : List Binding) (bound : conventions.bind operation = .ok bindings) :
    conventions.Fills operation.relation (conventions.shape operation) bindings := by
  cases onRelation : operation.relation with
  | view view =>
    have kind := grounded.readAll (by rw [onRelation]; rfl)
    simp only [bind, kind, bindReadAll, onRelation, Except.ok.injEq] at bound
    simp only [shape, onRelation, ← bound]
    exact .whole
  | function function =>
    have kind := grounded.readAll (by rw [onRelation]; rfl)
    simp only [bind, kind, bindReadAll, onRelation, mapM_parameterBinding_eq_ok_iff] at bound
    obtain ⟨scalars, supply, rfl⟩ := bound
    simp only [shape, onRelation]
    exact .call supply
  | table table =>
    have located := grounded.keyColumns_eq onRelation
    have isTable : operation.table = .ok table := by rw [Operation.table, onRelation]
    cases kind : operation.kind with
    | readAll =>
      obtain ⟨first, rest, columns⟩ :=
        List.exists_cons_of_ne_nil (grounded.columns_ne_nil onRelation)
      obtain ⟨filters, scalars, found, rfl, narrow⟩ :=
        conventions.exists_filters_of_bind operation table onRelation kind bindings bound
      rw [conventions.filters_eq (grounded.wellKeyed onRelation), Except.ok.injEq] at found
      subst found
      simp only [shape, onRelation, kind, columns, List.head?_cons]
      have filled : conventions.Fills (.table table) _ _ :=
        .rows (if operation.settings.paging then some first else none) narrow
      cases paging : operation.settings.paging <;> simpa [paging] using filled
    | readByKey | readByUnique =>
      simp only [bind, kind, bindKey, located, ok_bind, onRelation, entityInputs,
        mapM_entityBinding_eq_ok_iff] at bound
      simp only [shape, onRelation, kind]
      exact .lookup bound
    | delete =>
      simp only [bind, kind, bindKey, located, ok_bind, onRelation, entityInputs,
        mapM_entityBinding_eq_ok_iff] at bound
      simp only [shape, onRelation, kind]
      exact .delete bound
    | insert =>
      simp only [bind, kind, bindInsert, isTable, ok_bind, onRelation, entityInputs,
        bind_eq_ok_iff, pure_eq_ok_iff, mapM_entityBinding_eq_ok_iff, insertColumns_eq] at bound
      obtain ⟨inputs, written, outputs, generated, rfl⟩ := bound
      simp only [shape, onRelation, kind]
      exact .insert written generated
    | update =>
      simp only [bind, kind, bindUpdate, isTable, located, ok_bind, onRelation, entityInputs,
        bind_eq_ok_iff, pure_eq_ok_iff, mapM_entityBinding_eq_ok_iff, updateColumns_eq] at bound
      obtain ⟨assigned, writes, keys, locates, rfl⟩ := bound
      simp only [shape, onRelation, kind]
      exact .update writes locates

/-- The caller of a grounded operation passes what its shape takes. -/
theorem takes_of_callerParameters (operation : Operation) (grounded : operation.IsGrounded)
    (entity : String) (mutable : Bool) (parameters : List CallerParameter)
    (passed : conventions.callerParameters operation entity mutable = .ok parameters) :
    conventions.Takes ⟨entityArgument, .entity entity mutable, none⟩
      (conventions.shape operation) parameters := by
  cases onRelation : operation.relation with
  | view view =>
    have kind := grounded.readAll (by rw [onRelation]; rfl)
    simp only [callerParameters, kind, readAllParameters, onRelation, Except.ok.injEq] at passed
    simp only [shape, onRelation, ← passed]
    exact .whole
  | function function =>
    have kind := grounded.readAll (by rw [onRelation]; rfl)
    simp only [callerParameters, kind, readAllParameters, onRelation,
      mapM_functionParameter_eq_ok_iff] at passed
    obtain ⟨scalars, supply, rfl⟩ := passed
    simp only [shape, onRelation]
    exact .call supply
  | table table =>
    cases kind : operation.kind with
    | readAll =>
      obtain ⟨first, rest, columns⟩ :=
        List.exists_cons_of_ne_nil (grounded.columns_ne_nil onRelation)
      rw [callerParameters, kind] at passed
      obtain ⟨filters, scalars, found, rfl, narrow⟩ :=
        conventions.exists_filters_of_readAllParameters operation table onRelation parameters passed
      rw [conventions.filters_eq (grounded.wellKeyed onRelation), Except.ok.injEq] at found
      subst found
      simp only [shape, onRelation, kind, columns, List.head?_cons]
      have taken : conventions.Takes ⟨entityArgument, .entity entity mutable, none⟩ _ _ :=
        .rows (if operation.settings.paging then some first else none) narrow
      cases paging : operation.settings.paging <;> simpa [paging] using taken
    | readByKey | readByUnique =>
      simp only [callerParameters, kind, Except.ok.injEq] at passed
      simp only [shape, onRelation, kind, ← passed]
      exact .lookup _
    | insert =>
      simp only [callerParameters, kind, Except.ok.injEq] at passed
      simp only [shape, onRelation, kind, ← passed]
      exact .insert _ _
    | update =>
      simp only [callerParameters, kind, Except.ok.injEq] at passed
      simp only [shape, onRelation, kind, ← passed]
      exact .update _ _
    | delete =>
      simp only [callerParameters, kind, Except.ok.injEq] at passed
      simp only [shape, onRelation, kind, ← passed]
      exact .delete _

end Conventions

end DataAccess

import DataAccess.Proofs.Method.Assembly
import DataAccess.Proofs.Method.Shapes

/-!
The bindings of a shape, and the only thing that can go wrong while a method is put together: the
declared type of a column or parameter is not known.
-/
set_option autoImplicit false

namespace DataAccess

/-- The names and declared types of some columns. -/
def typed (columns : List Column) : List (String × String) :=
  columns.map fun column => (column.name, column.declaredType)

/-- The columns and parameters whose types the bindings of a shape need. -/
def Shape.typed : Shape → List (String × String)
  | .rows filters _ =>
    filters.map fun filter => (filter.column.name, filter.column.declaredType)
  | .whole => []
  | .call parameters => parameters.map fun parameter => (parameter.name, parameter.declaredType)
  | .lookup key | .delete key => DataAccess.typed key
  | .insert columns identity => DataAccess.typed columns ++ DataAccess.typed identity.toList
  | .update written key => DataAccess.typed written ++ DataAccess.typed key

/-- The names of the bindings of a shape. -/
def Conventions.bound (conventions : Conventions) : Shape → List String
  | .rows filters order =>
    filters.map (·.marker) ++
      if order.isSome then [pageSizeName, pageNumberName].map conventions.naming.scalarMarker
      else []
  | .whole => []
  | .call parameters => parameters.map (·.name)
  | .lookup key | .delete key =>
    key.map fun column => conventions.naming.columnMarker column.name
  | .insert columns identity =>
    (columns.map fun column => conventions.naming.columnMarker column.name) ++
      identity.toList.map fun column => conventions.naming.columnMarker column.name
  | .update written key =>
    (written.map fun column => conventions.naming.columnMarker column.name) ++
      key.map fun column => conventions.naming.columnMarker column.name

/-- Every declared type is known. -/
def TypeResolver.Knows (types : TypeResolver) (needed : List (String × String)) : Prop :=
  ∀ entry ∈ needed, (types entry.2).isSome = true

/-- An outcome that hangs on types alone. It is a value where every declared type that it needs is
known; otherwise it reports one that is not. -/
structure Conventions.Needs {α : Type} (conventions : Conventions) (relation : Relation)
    (needed : List (String × String)) (outcome : Except Error α) : Prop where
  known : ∀ value, outcome = .ok value → conventions.types.Knows needed
  unknown : ∀ failure, outcome = .error failure → ∃ entry ∈ needed,
    conventions.types entry.2 = none ∧
      failure = .unresolvedType relation.fullName entry.1 entry.2

/-- The only column of a key that is not generated, whose type may ask for a new key. -/
def Table.loneKey (table : Table) : List Column :=
  match table.columnsNamed table.keyNames with
  | [column] => if table.identity = some column.name then [] else [column]
  | _ => []

namespace Conventions

variable (conventions : Conventions) (relation : Relation)

section Needs

variable {α β : Type} {needed later : List (String × String)}

theorem needs_nothing (value : α) : conventions.Needs relation [] (.ok value) where
  known _ _ := by simp [TypeResolver.Knows]
  unknown failure failed := by cases failed

theorem needs_resolve (name declared : String) :
    conventions.Needs relation [(name, declared)]
      (conventions.resolve relation name declared) := by
  cases found : conventions.types declared with
  | none =>
    have refused : conventions.resolve relation name declared =
        .error (.unresolvedType relation.fullName name declared) := by rw [resolve, found]
    rw [refused]
    refine ⟨fun value success => (by cases success), fun failure failed => ?_⟩
    cases failed
    exact ⟨(name, declared), List.mem_cons_self, found, rfl⟩
  | some type =>
    have success : conventions.resolve relation name declared = .ok type := by rw [resolve, found]
    rw [success]
    refine ⟨fun value _ => ?_, fun failure failed => (by cases failed)⟩
    simp [TypeResolver.Knows, found]

section Sequences

variable {conventions relation}

theorem Needs.bind {first : Except Error α} {next : α → Except Error β}
    (needs : conventions.Needs relation needed first)
    (after : ∀ value, first = .ok value → conventions.Needs relation later (next value)) :
    conventions.Needs relation (needed ++ later) (first >>= next) where
  known := by
    intro value success
    obtain ⟨middle, reached, finished⟩ := (bind_eq_ok_iff _ _ _).1 success
    intro entry member
    rcases List.mem_append.1 member with early | late
    · exact needs.known middle reached entry early
    · exact (after middle reached).known value finished entry late
  unknown := by
    intro failure failed
    rcases (bind_eq_error_iff _ _ _).1 failed with early | ⟨middle, reached, late⟩
    · obtain ⟨entry, member, report⟩ := needs.unknown failure early
      exact ⟨entry, List.mem_append_left later member, report⟩
    · obtain ⟨entry, member, report⟩ := (after middle reached).unknown failure late
      exact ⟨entry, List.mem_append_right needed member, report⟩

/-- What is done with the value of an outcome needs no further types. -/
theorem Needs.bind_pure {first : Except Error α} (needs : conventions.Needs relation needed first)
    (result : α → β) :
    conventions.Needs relation needed (first >>= fun value => pure (result value)) := by
  have whole := needs.bind fun value _ => needs_nothing conventions relation
    (result value)
  rwa [List.append_nil] at whole

/-- Only which types are needed matters, not how often. -/
theorem Needs.congr {outcome : Except Error α} (needs : conventions.Needs relation needed outcome)
    (same : ∀ entry, entry ∈ needed ↔ entry ∈ later) :
    conventions.Needs relation later outcome where
  known value success entry member := needs.known value success entry ((same entry).2 member)
  unknown failure failed := by
    obtain ⟨entry, member, report⟩ := needs.unknown failure failed
    exact ⟨entry, (same entry).1 member, report⟩

/-- An outcome that needs known types only is a value. -/
theorem Needs.exists_value {outcome : Except Error α}
    (needs : conventions.Needs relation needed outcome)
    (knows : conventions.types.Knows needed) : ∃ value, outcome = .ok value := by
  cases outcome with
  | ok value => exact ⟨value, rfl⟩
  | error failure =>
    obtain ⟨entry, member, unknown, -⟩ := needs.unknown failure rfl
    have known := knows entry member
    rw [unknown] at known
    cases known

end Sequences

theorem needs_mapM (step : α → Except Error β) (need : α → List (String × String))
    (each : ∀ item, conventions.Needs relation (need item) (step item)) (items : List α) :
    conventions.Needs relation (items.flatMap need) (items.mapM step) := by
  induction items with
  | nil => exact needs_nothing conventions relation []
  | cons item rest ih =>
    rw [List.mapM_cons, List.flatMap_cons]
    exact (each item).bind fun value _ => ih.bind_pure fun values => value :: values

/-- One result for each of some items, of a type that each declares. -/
theorem needs_each (entry : α → String × String) (make : α → ResolvedType → β)
    (items : List α) :
    conventions.Needs relation (items.map entry)
      (items.mapM fun item => do
        let type ← conventions.resolve relation (entry item).1 (entry item).2
        return make item type) := by
  have each : ∀ item, conventions.Needs relation [entry item] (do
      let type ← conventions.resolve relation (entry item).1 (entry item).2
      return make item type) := fun item =>
    (needs_resolve conventions relation (entry item).1 (entry item).2).bind_pure (make item)
  have all := needs_mapM conventions relation _ (fun item => [entry item]) each items
  rwa [← List.map_eq_flatMap] at all

end Needs

section Binding

variable {needed later : List (String × String)} {names others : List String}

/-- Bindings of known names, which need certain types. -/
structure Binds (conventions : Conventions) (relation : Relation)
    (needed : List (String × String)) (names : List String)
    (outcome : Except Error (List Binding)) : Prop where
  needs : conventions.Needs relation needed outcome
  names : ∀ bindings, outcome = .ok bindings → bindings.map (·.name) = names

variable {conventions relation} in
theorem Binds.append {first second : Except Error (List Binding)}
    (binds : conventions.Binds relation needed names first)
    (after : conventions.Binds relation later others second) :
    conventions.Binds relation (needed ++ later) (names ++ others)
      (first >>= fun bindings => second >>= fun more => pure (bindings ++ more)) where
  needs := binds.needs.bind fun bindings _ => after.needs.bind_pure fun more => bindings ++ more
  names := by
    intro all success
    obtain ⟨bindings, reached, rest⟩ := (bind_eq_ok_iff _ _ _).1 success
    obtain ⟨more, finished, whole⟩ := (bind_eq_ok_iff _ _ _).1 rest
    rw [← (pure_eq_ok_iff _ _).1 whole, List.map_append, binds.names bindings reached,
      after.names more finished]

/-- One binding for each of some items, of a type that each declares. -/
theorem binds_mapM {α : Type} (entry : α → String × String) (name : α → String)
    (make : α → ResolvedType → Binding) (named : ∀ item type, (make item type).name = name item)
    (items : List α) :
    conventions.Binds relation (items.map entry) (items.map name)
      (items.mapM fun item => do
        let type ← conventions.resolve relation (entry item).1 (entry item).2
        return make item type) where
  needs := needs_each conventions relation entry make items
  names := by
    intro bindings success
    refine map_eq_of_mapM_eq_ok _ (·.name) name ?_ items bindings success
    intro item binding made
    obtain ⟨type, -, finished⟩ := (bind_eq_ok_iff _ _ _).1 made
    rw [← (pure_eq_ok_iff _ _).1 finished, named]

theorem binds_columns (direction : Direction) (columns : List Column) :
    conventions.Binds relation (typed columns)
      (columns.map fun column => conventions.naming.columnMarker column.name)
      (columns.mapM (conventions.entityBinding relation direction)) := by
  have all := binds_mapM conventions relation
    (fun column : Column => (column.name, column.declaredType))
    (fun column => conventions.naming.columnMarker column.name)
    (fun column type => {
      name := conventions.naming.columnMarker column.name
      source := .entity (conventions.naming.property column.name)
      direction
      type := if column.nullable then type.nullable else type })
    (fun _ _ => rfl) columns
  have same : conventions.entityBinding relation direction = fun column => do
      let type ← conventions.resolve relation column.name column.declaredType
      return {
        name := conventions.naming.columnMarker column.name
        source := .entity (conventions.naming.property column.name)
        direction
        type := if column.nullable then type.nullable else type } := by
    funext column
    rw [entityBinding, resolveColumn]
    cases conventions.resolve relation column.name column.declaredType <;> rfl
  rw [same]
  exact all

theorem binds_filters (filters : List Filter) :
    conventions.Binds relation
      (filters.map fun filter => (filter.column.name, filter.column.declaredType))
      (filters.map (·.marker)) (filters.mapM (conventions.filterBinding relation)) :=
  binds_mapM conventions relation
    (fun filter : Filter => (filter.column.name, filter.column.declaredType))
    (·.marker) (fun filter type => ⟨filter.marker, .argument filter.argument, .input, type⟩)
    (fun _ _ => rfl) filters

theorem binds_parameters (parameters : List Parameter) :
    conventions.Binds relation
      (parameters.map fun parameter => (parameter.name, parameter.declaredType))
      (parameters.map (·.name)) (parameters.mapM (conventions.parameterBinding relation)) :=
  binds_mapM conventions relation
    (fun parameter : Parameter => (parameter.name, parameter.declaredType)) (·.name)
    (fun parameter type =>
      ⟨parameter.name, .argument (conventions.naming.argument parameter.name), .input, type⟩)
    (fun _ _ => rfl) parameters

theorem binds_ok (bindings : List Binding) :
    conventions.Binds relation [] (bindings.map (·.name)) (.ok bindings) where
  needs := needs_nothing conventions relation bindings
  names := by
    rintro given ⟨⟩
    rfl

theorem binds_rows (filters : List Filter) (paging : Bool) :
    conventions.Binds relation
      (filters.map fun filter => (filter.column.name, filter.column.declaredType))
      (filters.map (·.marker) ++
        if paging then [pageSizeName, pageNumberName].map conventions.naming.scalarMarker else [])
      (filters.mapM (conventions.filterBinding relation) >>= fun bindings =>
        pure (bindings ++ if paging then conventions.pagingBindings else [])) := by
  have whole := (binds_filters conventions relation filters).append
    (binds_ok conventions relation (if paging then conventions.pagingBindings else []))
  have scalars : (if paging then conventions.pagingBindings else []).map (·.name) =
      if paging then [pageSizeName, pageNumberName].map conventions.naming.scalarMarker
      else [] := by
    cases paging <;> rfl
  rw [scalars, List.append_nil] at whole
  exact whole

/-- What a grounded operation is bound to is a matter of its shape. -/
theorem binds_operation (operation : Operation) (grounded : operation.IsGrounded) :
    conventions.Binds operation.relation (conventions.shape operation).typed
      (conventions.bound (conventions.shape operation)) (conventions.bind operation) := by
  cases onRelation : operation.relation with
  | view view =>
    have kind := grounded.readAll (by rw [onRelation]; rfl)
    simp only [bind, kind, bindReadAll, onRelation, shape, Shape.typed, bound]
    exact binds_ok _ _ []
  | function function =>
    have kind := grounded.readAll (by rw [onRelation]; rfl)
    simp only [bind, kind, bindReadAll, onRelation, shape, Shape.typed, bound]
    exact binds_parameters _ _ function.parameters
  | table table =>
    have keyed := grounded.wellKeyed onRelation
    have located := grounded.keyColumns_eq onRelation
    have isTable : operation.table = .ok table := by rw [Operation.table, onRelation]
    cases kind : operation.kind with
    | readAll =>
      obtain ⟨first, rest, columns⟩ :=
        List.exists_cons_of_ne_nil (grounded.columns_ne_nil onRelation)
      simp only [bind, kind, bindReadAll, onRelation, shape, Shape.typed, bound,
        conventions.filters_eq keyed, ok_bind, columns, List.head?_cons]
      have rows := binds_rows conventions (.table table)
        (conventions.naming.filtersOn
          (conventions.naming.pagingNames operation.settings.paging) table.filtered)
        operation.settings.paging
      cases paging : operation.settings.paging <;> simpa [paging] using rows
    | readByKey | readByUnique | delete =>
      simp only [bind, kind, bindKey, onRelation, shape, Shape.typed, bound, located, ok_bind]
      exact binds_columns _ _ .input _
    | insert =>
      simp only [bind, kind, bindInsert, onRelation, shape, Shape.typed, bound, isTable, ok_bind,
        insertColumns_eq]
      exact (binds_columns _ _ .input _).append (binds_columns _ _ .output _)
    | update =>
      simp only [bind, kind, bindUpdate, onRelation, shape, Shape.typed, bound, isTable, located,
        ok_bind, updateColumns_eq]
      exact (binds_columns _ _ .input _).append (binds_columns _ _ .input _)

end Binding

section Assembly

variable {table : Table}

theorem needs_guidKeyProperty (keyed : table.WellKeyed) :
    conventions.Needs relation (typed table.loneKey)
      (conventions.guidKeyProperty? relation table) := by
  rw [guidKeyProperty?, keyed.keyColumns, ok_bind, Table.loneKey]
  generalize table.columnsNamed table.keyNames = key
  rcases key with _ | ⟨column, _ | ⟨second, rest⟩⟩
  · exact needs_nothing conventions relation none
  · by_cases generated : table.identity = some column.name
    · simp only [generated, ↓reduceIte]
      exact needs_nothing conventions relation none
    · simp only [generated, ↓reduceIte]
      exact (needs_resolve conventions relation _ _).bind_pure _
  · exact needs_nothing conventions relation none

/-- The caller passes what the bindings of a query need, and otherwise a row. -/
theorem needs_callerParameters (operation : Operation) (grounded : operation.IsGrounded)
    (entity : String) (mutable : Bool) :
    conventions.Needs operation.relation
      (if operation.kind = .readAll then (conventions.shape operation).typed else [])
      (conventions.callerParameters operation entity mutable) := by
  by_cases kind : operation.kind = .readAll
  · rw [callerParameters, kind, if_pos rfl]
    simp only [readAllParameters]
    cases onRelation : operation.relation with
    | view view =>
      simp only [shape, onRelation, Shape.typed]
      exact needs_nothing _ _ []
    | function function =>
      simp only [shape, onRelation, Shape.typed]
      exact needs_each _ _
        (fun parameter : Parameter => (parameter.name, parameter.declaredType))
        (fun parameter type => (⟨conventions.naming.argument parameter.name,
          .scalar type.target false, none⟩ : CallerParameter)) function.parameters
    | table table =>
      simp only [shape, onRelation, kind, Shape.typed,
        conventions.filters_eq (grounded.wellKeyed onRelation), ok_bind]
      exact (needs_each conventions (.table table)
        (fun filter : Filter => (filter.column.name, filter.column.declaredType))
        (fun filter type => (⟨filter.argument, .scalar type.target true, some .null⟩ :
          CallerParameter)) _).bind_pure _
  · rw [callerParameters, if_neg kind]
    split
    · contradiction
    · exact needs_nothing _ _ _

/-- All types that a method of an operation needs. -/
def needed (conventions : Conventions) (operation : Operation) : List (String × String) :=
  (conventions.shape operation).typed ++
    match operation.kind, operation.relation with
    | .insert, .table table => typed table.loneKey
    | _, _ => []

theorem needs_stepsBefore (operation : Operation) (grounded : operation.IsGrounded) :
    conventions.Needs operation.relation
      (match operation.kind, operation.relation with
        | .insert, .table table => typed table.loneKey
        | _, _ => [])
      (conventions.stepsBefore operation) := by
  cases kind : operation.kind with
  | insert =>
    cases onRelation : operation.relation with
    | table table =>
      simp only [stepsBefore, kind, onRelation]
      exact (needs_guidKeyProperty _ _ (grounded.wellKeyed onRelation)).bind_pure _
    | view view =>
      simp only [stepsBefore, kind, onRelation]
      exact needs_nothing _ _ []
    | function function =>
      simp only [stepsBefore, kind, onRelation]
      exact needs_nothing _ _ []
  | readAll | readByKey | readByUnique | update | delete =>
    simp only [stepsBefore, kind]
    exact needs_nothing _ _ []

/-- Once a statement is there, a method is missing nothing but types. -/
theorem needs_method (operation : Operation) (grounded : operation.IsGrounded)
    (statement : Sql.Statement) :
    conventions.Needs operation.relation (conventions.needed operation)
      (conventions.bind operation >>= fun bindings =>
        conventions.assemble operation statement bindings) := by
  have bound := (conventions.binds_operation operation grounded).needs
  have whole := bound.bind fun bindings _ => (needs_stepsBefore conventions operation grounded).bind
    fun before _ => (needs_callerParameters conventions operation grounded
      (conventions.naming.entity operation.relation)
      (!before.isEmpty || !(operation.stepsAfter bindings).isEmpty)).bind_pure fun parameters => (
        { name := conventions.naming.method operation.relation operation.kind operation.unique
          kind := operation.kind
          relation := operation.relation.fullName
          doc := if operation.kind = .readAll then operation.relation.description else none
          parameters
          returns := returnShape operation.kind (conventions.naming.entity operation.relation)
          body := {
            query := operation.settings.renderStrategy.write statement
            sql := statement.sql
            bindings
            contract := .around before
              (executeCall operation.kind (conventions.naming.entity operation.relation))
              (operation.stepsAfter bindings) } } : Method)
  apply Needs.congr whole
  intro entry
  rw [needed]
  simp only [List.mem_append]
  by_cases kind : operation.kind = .readAll
  · simp [kind]
  · simp [kind]

end Assembly

end Conventions

end DataAccess

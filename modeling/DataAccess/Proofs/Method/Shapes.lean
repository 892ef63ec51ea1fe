import DataAccess.Method.Rendering
import DataAccess.Operation
import DataAccess.Proofs.Schema.WellFormed

/-!
The shapes of statements. For an operation that a valid relation supports everything that its
statement is about is found, and the statement depends on nothing else.
-/
set_option autoImplicit false

namespace DataAccess

open Sql

section Plan

variable {operation : Operation} {settings : GenerationSettings}

/-- An operation that its relation supports. -/
structure Operation.IsPlanned (operation : Operation) : Prop where
  valid : operation.relation.validate = .ok ()
  member : operation ∈ operation.relation.plan operation.settings

theorem mem_operations_iff (table : Table) (kind : OperationKind) (unique : Option Unique) :
    (kind, unique) ∈ table.operations ↔
      (unique = none ∧ (kind = .readAll ∨ kind = .insert ∨
        table.primaryKey.isSome ∧ (kind = .readByKey ∨ kind = .update ∨ kind = .delete))) ∨
      ∃ constraint ∈ table.uniques, kind = .readByUnique ∧ unique = some constraint := by
  simp only [Table.operations, List.mem_append, List.mem_map, Prod.mk.injEq]
  by_cases keyed : table.primaryKey.isSome
  · simp only [keyed, ↓reduceIte, List.mem_cons, List.not_mem_nil, Prod.mk.injEq]
    grind
  · simp only [keyed, Bool.false_eq_true, ↓reduceIte, List.mem_cons, List.not_mem_nil,
      Prod.mk.injEq]
    grind

theorem mem_plan_table_iff (table : Table) :
    operation ∈ (Relation.table table).plan settings ↔
      operation.relation = .table table ∧ operation.settings = settings ∧
        (operation.kind, operation.unique) ∈ table.operations := by
  simp only [Relation.plan, List.mem_map, Prod.exists]
  constructor
  · rintro ⟨kind, unique, member, rfl⟩
    exact ⟨rfl, rfl, member⟩
  · rintro ⟨relation, rfl, member⟩
    refine ⟨operation.kind, operation.unique, member, ?_⟩
    rw [← relation]

theorem of_mem_plan (relation : Relation) (member : operation ∈ relation.plan settings) :
    operation.relation = relation ∧ operation.settings = settings := by
  cases relation with
  | table table =>
    obtain ⟨same, given, -⟩ := (mem_plan_table_iff table).1 member
    exact ⟨same, given⟩
  | view view =>
    rw [List.mem_singleton.1 member]
    exact ⟨rfl, rfl⟩
  | function function =>
    rw [List.mem_singleton.1 member]
    exact ⟨rfl, rfl⟩

theorem isPlanned_of_mem_plan (relation : Relation) (valid : relation.validate = .ok ())
    (member : operation ∈ relation.plan settings) : operation.IsPlanned := by
  obtain ⟨rfl, rfl⟩ := of_mem_plan relation member
  exact ⟨valid, member⟩

/-- Views and functions are only read as a whole. -/
theorem Operation.IsPlanned.kind_eq_readAll (planned : operation.IsPlanned)
    (noTable : operation.relation.table? = none) : operation.kind = .readAll := by
  have member := planned.member
  cases shape : operation.relation with
  | table table => simp [shape, Relation.table?] at noTable
  | view view =>
    rw [shape] at member
    rw [List.mem_singleton.1 member]
  | function function =>
    rw [shape] at member
    rw [List.mem_singleton.1 member]

end Plan

/-- The columns that an operation on a table looks rows up by. -/
def Operation.lookupNames (operation : Operation) (table : Table) : List String :=
  match operation.kind, operation.unique with
  | .readByUnique, some unique => unique.columns
  | _, _ => table.keyNames

theorem Operation.lookupNames_eq_keyNames (operation : Operation) (table : Table)
    (notUnique : operation.kind ≠ .readByUnique) :
    operation.lookupNames table = table.keyNames := by
  unfold lookupNames
  split
  · contradiction
  · rfl

/-- The columns of a table that reading all rows is filtered by. -/
def Table.filtered (table : Table) : List Column :=
  table.columnsNamed (distinct table.singleColumns)

/-- The columns that are neither the identity nor excluded. -/
def Table.inserted (table : Table) (exclusions : List String) : List Column :=
  table.columns.filter fun column =>
    table.identity ≠ some column.name ∧ column.name ∉ exclusions

/-- The columns that are neither key nor identity nor excluded. -/
def Table.updated (table : Table) (exclusions : List String) : List Column :=
  table.columns.filter fun column =>
    column.name ∉ table.keyNames ∧ table.identity ≠ some column.name ∧ column.name ∉ exclusions

namespace Conventions

variable (conventions : Conventions) (table : Table)

theorem insertColumns_eq :
    conventions.insertColumns table = table.inserted conventions.insertExclusions := by
  refine List.filter_congr fun column _ => ?_
  rw [Bool.eq_iff_iff, decide_eq_true_iff]
  simp only [Bool.and_eq_true, bne_iff_ne, Bool.not_eq_true', List.contains_eq_mem,
    decide_eq_false_iff_not]

theorem updateColumns_eq :
    conventions.updateColumns table = table.updated conventions.updateExclusions := by
  refine List.filter_congr fun column _ => ?_
  rw [Bool.eq_iff_iff, decide_eq_true_iff]
  simp only [Bool.and_eq_true, bne_iff_ne, Bool.not_eq_true', List.contains_eq_mem,
    decide_eq_false_iff_not, and_assoc, Table.keyNames]

end Conventions

/-- An operation on a valid relation that finds all that it is about, planned or not. -/
structure Operation.IsGrounded (operation : Operation) : Prop where
  valid : operation.relation.validate = .ok ()
  readAll : operation.relation.table? = none → operation.kind = .readAll
  has : ∀ table, operation.relation = .table table → table.Has (operation.lookupNames table)

namespace Operation.IsGrounded

variable {operation : Operation} {table : Table}

/-- Only tables have more to them than reading all rows. -/
theorem exists_table (grounded : operation.IsGrounded) (notReadAll : operation.kind ≠ .readAll) :
    ∃ table, operation.relation = .table table := by
  cases onRelation : operation.relation with
  | table table => exact ⟨table, rfl⟩
  | view view | function function =>
    exact absurd (grounded.readAll (by rw [onRelation]; rfl)) notReadAll

theorem wellKeyed (grounded : operation.IsGrounded)
    (onTable : operation.relation = .table table) : table.WellKeyed :=
  Relation.wellKeyed_of_validate (onTable ▸ grounded.valid)

theorem columns_ne_nil (grounded : operation.IsGrounded)
    (onTable : operation.relation = .table table) : table.columns ≠ [] := by
  have named := Relation.wellNamed_of_validate grounded.valid
  rw [onTable] at named
  exact named.filled

theorem keyColumns_eq (grounded : operation.IsGrounded)
    (onTable : operation.relation = .table table) :
    operation.keyColumns = .ok (table.columnsNamed (operation.lookupNames table)) := by
  have has := grounded.has table onTable
  have byKey := (grounded.wellKeyed onTable).keyColumns
  by_cases byUnique : operation.kind = .readByUnique
  · cases given : operation.unique with
    | some unique =>
      have names : operation.lookupNames table = unique.columns := by
        rw [lookupNames, byUnique, given]
      rw [names] at has ⊢
      simp only [keyColumns, onTable, byUnique, given, Table.constraintColumns_eq _ has]
    | none =>
      have names : operation.lookupNames table = table.keyNames := by
        rw [lookupNames, byUnique, given]
      simp only [keyColumns, onTable, byUnique, given, names, byKey]
  · rw [operation.lookupNames_eq_keyNames table byUnique, ← byKey]
    simp only [keyColumns, onTable]
    split
    · contradiction
    · rfl

end Operation.IsGrounded

namespace Operation.IsPlanned

variable {operation : Operation} {table : Table}

theorem mem_operations (planned : operation.IsPlanned)
    (onTable : operation.relation = .table table) :
    (operation.kind, operation.unique) ∈ table.operations := by
  have member := planned.member
  rw [onTable] at member
  exact ((mem_plan_table_iff table).1 member).2.2

theorem exists_unique (planned : operation.IsPlanned)
    (onTable : operation.relation = .table table) (kind : operation.kind = .readByUnique) :
    ∃ unique ∈ table.uniques, operation.unique = some unique ∧
      operation.lookupNames table = unique.columns := by
  rcases (mem_operations_iff table _ _).1 (planned.mem_operations onTable) with
    ⟨-, other⟩ | ⟨unique, among, -, given⟩
  · simp [kind] at other
  · exact ⟨unique, among, given, by rw [lookupNames, kind, given]⟩

theorem grounded (planned : operation.IsPlanned) : operation.IsGrounded := by
  refine ⟨planned.valid, planned.kind_eq_readAll, fun table onTable => ?_⟩
  have keyed := Relation.wellKeyed_of_validate (onTable ▸ planned.valid)
  by_cases kind : operation.kind = .readByUnique
  · obtain ⟨unique, among, -, names⟩ := planned.exists_unique onTable kind
    rw [names]
    exact (keyed.uniques unique among).2
  · rw [operation.lookupNames_eq_keyNames table kind]
    exact keyed.has_keyNames

/-- What looks rows up does so by at least one column. -/
theorem lookupNames_ne_nil (planned : operation.IsPlanned)
    (onTable : operation.relation = .table table) (notReadAll : operation.kind ≠ .readAll)
    (notInsert : operation.kind ≠ .insert) : operation.lookupNames table ≠ [] := by
  have keyed := planned.grounded.wellKeyed onTable
  by_cases kind : operation.kind = .readByUnique
  · obtain ⟨unique, among, -, names⟩ := planned.exists_unique onTable kind
    rw [names]
    exact (keyed.uniques unique among).1
  · rw [operation.lookupNames_eq_keyNames table kind]
    obtain ⟨key, present⟩ : ∃ key, table.primaryKey = some key := by
      have listed := (mem_operations_iff table _ _).1 (planned.mem_operations onTable)
      simp only [notReadAll, notInsert, kind, false_and, and_false, exists_false, or_false,
        false_or, Option.isSome_iff_exists] at listed
      exact listed.2.1
    rw [Table.keyNames, present]
    exact (keyed.primaryKey key present).1

end Operation.IsPlanned

/-- What a statement is about. -/
inductive Shape where
  /-- The rows of a table, with a page in the order of a column. -/
  | rows (filters : List Filter) (order : Option Column)
  | whole
  | call (parameters : List Parameter)
  | lookup (key : List Column)
  | insert (columns : List Column) (identity : Option Column)
  | update (written key : List Column)
  | delete (key : List Column)

/-- The columns that a statement mentions after the ones that it selects. -/
def Shape.columns : Shape → List Column
  | .rows filters order => filters.map (·.column) ++ order.toList
  | .whole | .call _ => []
  | .lookup key | .delete key => key
  | .insert columns identity => columns ++ identity.toList
  | .update written key => written ++ key

namespace Conventions

variable (conventions : Conventions)

/-- What the statement of an operation is about. -/
def shape (operation : Operation) : Shape :=
  match operation.relation with
  | .view _ => .whole
  | .function function => .call function.parameters
  | .table table =>
    let key := table.columnsNamed (operation.lookupNames table)
    match operation.kind with
    | .readAll =>
      .rows
        (conventions.naming.filtersOn (conventions.naming.pagingNames operation.settings.paging)
          table.filtered)
        (if operation.settings.paging then table.columns.head? else none)
    | .readByKey | .readByUnique => .lookup key
    | .insert => .insert (table.inserted conventions.insertExclusions) table.identityColumn?
    | .update => .update (table.updated conventions.updateExclusions) key
    | .delete => .delete key

/-- The statement of a shape. -/
def statement (relation : Relation) : Shape → Statement
  | .rows filters order =>
    let filtered :=
      conventions.filterClause ((projection relation).item relation.fullName) filters
    match order with
    | some first => conventions.pageClause filtered first
    | none => filtered
  | .whole => (projection relation).item relation.fullName
  | .call parameters =>
    let arguments := parameters.map fun parameter => conventions.dialect.marker parameter.name
    (projection relation).item (relation.fullName ++ "(" ++ ", ".intercalate arguments ++ ")")
  | .lookup key => conventions.predicate ((projection relation).item relation.fullName) key
  | .insert columns identity =>
    let filled := conventions.valuesClause
      ((({} : Statement).keyword "insert into").item relation.fullName) columns
    match identity with
    | some column =>
      filled.keyword
        (conventions.dialect.identityClause column.name (conventions.columnMarker column))
    | none => filled
  | .update written key =>
    let assigned := if written.isEmpty then key else written
    let start := (({} : Statement).keyword "update").item relation.fullName
    conventions.predicate
      ((start.keyword "set").list (assigned.map conventions.assignment) ",") key
  | .delete key =>
    conventions.predicate ((({} : Statement).keyword "delete from").item relation.fullName) key

theorem filters_eq {table : Table} (keyed : table.WellKeyed) (paging : Bool) :
    conventions.filters table paging =
      .ok (conventions.naming.filtersOn (conventions.naming.pagingNames paging)
        table.filtered) := by
  rw [filters, keyed.filterColumns]
  rfl

/-- A grounded operation is rendered, and its statement is that of its shape. -/
theorem render_eq (operation : Operation) (grounded : operation.IsGrounded) :
    conventions.render operation =
      .ok (conventions.statement operation.relation (conventions.shape operation)) := by
  cases onRelation : operation.relation with
  | view view =>
    have kind := grounded.readAll (by rw [onRelation]; rfl)
    simp only [render, kind, renderReadAll, onRelation, shape, statement]
  | function function =>
    have kind := grounded.readAll (by rw [onRelation]; rfl)
    simp only [render, kind, renderReadAll, onRelation, shape, statement]
  | table table =>
    have keyed := grounded.wellKeyed onRelation
    have located := grounded.keyColumns_eq onRelation
    have isTable : operation.table = .ok table := by rw [Operation.table, onRelation]
    cases kind : operation.kind with
    | readAll =>
      obtain ⟨first, rest, columns⟩ :=
        List.exists_cons_of_ne_nil (grounded.columns_ne_nil onRelation)
      simp only [render, kind, renderReadAll, onRelation, shape, statement,
        conventions.filters_eq keyed, ok_bind, columns, List.head?_cons]
      split <;> rfl
    | readByKey | readByUnique =>
      simp only [render, kind, renderReadByKey, onRelation, shape, statement, located, ok_bind]
      rfl
    | insert =>
      simp only [render, kind, renderInsert, onRelation, shape, statement, isTable, ok_bind,
        insertColumns_eq]
      rfl
    | update =>
      simp only [render, kind, renderUpdate, onRelation, shape, statement, isTable, located,
        ok_bind, assignedColumns, updateColumns_eq]
      rfl
    | delete =>
      simp only [render, kind, renderDelete, onRelation, shape, statement, located, ok_bind]
      rfl

/-- An operation that is rendered has found all that it is about. -/
theorem isGrounded_of_render (operation : Operation) (statement : Statement)
    (valid : operation.relation.validate = .ok ())
    (rendered : conventions.render operation = .ok statement) : operation.IsGrounded := by
  refine ⟨valid, ?_, ?_⟩
  · intro noTable
    have noKeys : operation.keyColumns = .error (.noKeys operation.relation.fullName) := by
      unfold Operation.keyColumns
      split
      · rename_i table onTable
        simp [onTable, Relation.table?] at noTable
      · rfl
    have isNone : operation.table = .error (.notTable operation.relation.fullName) := by
      unfold Operation.table
      split
      · rename_i table onTable
        simp [onTable, Relation.table?] at noTable
      · rfl
    cases kind : operation.kind with
    | readAll => rfl
    | readByKey | readByUnique => simp [render, kind, renderReadByKey, noKeys] at rendered
    | insert => simp [render, kind, renderInsert, isNone] at rendered
    | update => simp [render, kind, renderUpdate, isNone] at rendered
    | delete => simp [render, kind, renderDelete, noKeys] at rendered
  · intro table onTable
    have keyed := Relation.wellKeyed_of_validate (onTable ▸ valid)
    unfold Operation.lookupNames
    split
    · rename_i unique kind given
      simp only [render, kind, renderReadByKey, Operation.keyColumns, onTable, given] at rendered
      obtain ⟨columns, found, -⟩ := (bind_eq_ok_iff _ _ _).1 rendered
      exact Table.has_of_constraintColumns unique.columns columns found
    · exact keyed.has_keyNames

end Conventions

end DataAccess

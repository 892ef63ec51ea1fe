import DataAccess.Proofs.Method.Assembly
import DataAccess.Proofs.Method.CanonicalText

/-!
The lookup of rows by columns. A statement on some rows ends in a clause with one equation for each
column of the key or constraint that its operation goes by. Only the plan sees to it that there are
such columns: the clause of an operation that no plan has may be empty.
-/
set_option autoImplicit false

namespace DataAccess

open Sql

/-- What is done to the rows with given values. -/
def OperationKind.onSomeRows : List OperationKind :=
  [.readByKey, .readByUnique, .update, .delete]

/-- An operation that has no columns to find rows by. -/
def Operation.IsKeyless (operation : Operation) (table : Table) : Prop :=
  match operation.kind, operation.unique with
  | .readByUnique, some unique => unique.columns = []
  | _, _ => table.primaryKey = none

/-- The statement ends in its only `where`, with one equation for each column, in their order. -/
def Conventions.EndsInLookup (conventions : Conventions) (key : List Column)
    (statement : Statement) : Prop :=
  ∃ before, ⟨0, "where"⟩ ∉ before ∧ statement.fragments =
    before ++ ⟨0, "where"⟩ :: (separated " and" (key.map conventions.assignment)).map (⟨1, ·⟩)

/-- A method for the rows with given values in some columns of a table. -/
structure Synthesizer.LooksUp (synthesizer : Synthesizer) (operation : Operation)
    (method : Method) (table : Table) (key : List Column) : Prop where
  onTable : operation.relation = .table table
  found : operation.keyColumns = .ok key
  names : key.map (·.name) = operation.lookupNames table
  statement : ∃ statement,
    method.Carries operation.settings.renderStrategy statement method.body.bindings ∧
      synthesizer.conventions.EndsInLookup key statement
  /-- With the naming and a dialect of the library, what the canonical text ends in. -/
  text : ∀ settings known types, synthesizer = .standard settings known types → key ≠ [] →
    ∃ start, method.body.sql = start ++ CanonicalText.located known (key.map (·.name))
  empty_iff : key = [] ↔ operation.IsKeyless table
  planned : operation.IsPlanned → key ≠ []

theorem OperationKind.mem_onSomeRows_iff (kind : OperationKind) :
    kind ∈ onSomeRows ↔ kind ≠ .readAll ∧ kind ≠ .insert := by
  cases kind <;> decide

namespace Operation

variable {operation : Operation} {table : Table}

theorem lookupNames_eq_nil_iff (keyed : table.WellKeyed) :
    operation.lookupNames table = [] ↔ operation.IsKeyless table := by
  have byKey : table.keyNames = [] ↔ table.primaryKey = none := by
    cases present : table.primaryKey with
    | none => simp [Table.keyNames, present]
    | some key => simp [Table.keyNames, present, (keyed.primaryKey key present).1]
  rw [lookupNames, IsKeyless]
  cases operation.kind with
  | readByUnique =>
    cases operation.unique with
    | none => exact byKey
    | some unique => exact Iff.rfl
  | readAll | readByKey | insert | update | delete => exact byKey

end Operation

namespace Conventions

variable (conventions : Conventions)

theorem endsInLookup_predicate (statement : Statement) (key : List Column)
    (first : ⟨0, "where"⟩ ∉ statement.fragments) :
    conventions.EndsInLookup key (conventions.predicate statement key) :=
  ⟨statement.fragments, first, by simp [predicate, Statement.keyword, Statement.list]⟩

/-- Shapes of statements that find rows by columns. -/
inductive Finds (key : List Column) : Shape → Prop where
  | lookup : Finds key (.lookup key)
  | update (written : List Column) : Finds key (.update written key)
  | delete : Finds key (.delete key)

theorem Finds.endsInLookup {key : List Column} {shape : Shape} (finds : Finds key shape)
    (relation : Relation) :
    conventions.EndsInLookup key (conventions.statement relation shape) := by
  cases finds with
  | lookup | update written | delete =>
    apply conventions.endsInLookup_predicate
    simp [projection, Statement.keyword, Statement.item, Statement.list]

theorem Finds.exists_start {key : List Column} {shape : Shape} (finds : Finds key shape)
    (known : KnownDialect) (relation : Relation) :
    ∃ start, CanonicalText.ofShape known relation shape =
      start ++ CanonicalText.located known (key.map (·.name)) := by
  cases finds with
  | lookup | update written | delete => exact ⟨_, rfl⟩

theorem Finds.located {key : List Column} {shape : Shape} (finds : Finds key shape)
    (filled : key ≠ []) : shape.Located := by
  cases finds with
  | lookup | update written | delete => exact filled

theorem finds_shape (operation : Operation) (table : Table)
    (onTable : operation.relation = .table table)
    (onSome : operation.kind ∈ OperationKind.onSomeRows) :
    Finds (table.columnsNamed (operation.lookupNames table)) (conventions.shape operation) := by
  obtain ⟨notReadAll, notInsert⟩ := operation.kind.mem_onSomeRows_iff.1 onSome
  rw [shape, onTable]
  cases kind : operation.kind with
  | readByKey | readByUnique => exact .lookup
  | update => exact .update _
  | delete => exact .delete
  | readAll => exact absurd kind notReadAll
  | insert => exact absurd kind notInsert

end Conventions

namespace Synthesizer

/-- Every method on some rows finds them by all columns that its operation goes by. There are such
columns wherever the operation is planned. -/
theorem exists_looksUp (synthesizer : Synthesizer) (operation : Operation) (method : Method)
    (onSome : operation.kind ∈ OperationKind.onSomeRows)
    (synthesized : synthesizer.synthesizeOperation operation = .ok method) :
    ∃ table key, synthesizer.LooksUp operation method table key := by
  obtain ⟨valid, statement, bindings, rendered, -, assembled⟩ :=
    synthesizer.exists_of_synthesizeOperation operation method synthesized
  have carries := Conventions.carries_of_assemble _ operation statement bindings method assembled
  obtain rfl := carries.bindings
  have grounded := Conventions.isGrounded_of_render _ operation statement valid rendered
  rw [Conventions.render_eq _ operation grounded] at rendered
  obtain rfl := Except.ok.inj rendered
  obtain ⟨notReadAll, notInsert⟩ := operation.kind.mem_onSomeRows_iff.1 onSome
  obtain ⟨table, onTable⟩ := grounded.exists_table notReadAll
  have has := grounded.has table onTable
  have names := Table.map_name_columnsNamed _ has
  have finds := synthesizer.conventions.finds_shape operation table onTable onSome
  refine ⟨table, table.columnsNamed (operation.lookupNames table), onTable,
    grounded.keyColumns_eq onTable, names, ⟨_, carries, finds.endsInLookup _ _⟩, ?_, ?_, ?_⟩
  · rintro settings known types rfl filled
    obtain ⟨start, same⟩ := finds.exists_start known operation.relation
    have named := Relation.wellNamed_of_validate valid
    have sound := sound_shape settings known types operation grounded
    have spells := spells_shape settings known types operation.relation named _ sound
      (finds.located filled)
    exact ⟨start, by rw [carries.sql, spells.sql_eq, same]⟩
  · have empty : (table.columnsNamed (operation.lookupNames table)).map (·.name) = [] ↔
        table.columnsNamed (operation.lookupNames table) = [] := List.map_eq_nil_iff
    rw [← empty, names]
    exact Operation.lookupNames_eq_nil_iff (grounded.wellKeyed onTable)
  · intro planned
    exact Table.columnsNamed_ne_nil _ (planned.lookupNames_ne_nil onTable notReadAll notInsert) has

/-- A lookup by a constraint of two columns. -/
def ordersByCustomer : Operation where
  kind := .readByUnique
  relation := .table orders
  unique := some { columns := ["CustomerId", "Note"] }

theorem exists_looksUp_orders :
    ∃ method key, ({} : Synthesizer).synthesizeOperation ordersByCustomer = .ok method ∧
      ({} : Synthesizer).LooksUp ordersByCustomer method orders key ∧
      key.map (·.name) = ["CustomerId", "Note"] := by
  obtain ⟨method, synthesized⟩ := exists_eq_ok_of_toBool
    (({} : Synthesizer).synthesizeOperation ordersByCustomer) (by decide +kernel)
  obtain ⟨table, key, looksUp⟩ := exists_looksUp {} _ method (by decide) synthesized
  obtain rfl := Relation.table.inj looksUp.onTable
  exact ⟨method, key, synthesized, looksUp, looksUp.names⟩

/-- A table without a key. -/
def auditEntries : Table where
  name := "AuditEntry"
  columns := [
    { name := "At", declaredType := "datetime2" },
    { name := "Message", declaredType := "nvarchar(max)" }]

/-- A deletion whose `where` has no equation, of an operation that is not planned. -/
theorem exists_lookup_without_columns :
    ∃ method, (Relation.table auditEntries).validate = .ok () ∧
      ({} : Synthesizer).synthesizeOperation
        { kind := .delete, relation := .table auditEntries } = .ok method ∧
      Operation.keyColumns { kind := .delete, relation := .table auditEntries } = .ok [] ∧
      method.kind = .delete ∧ method.body.sql = "delete from AuditEntry where" ∧
      method.body.bindings = [] := by
  obtain ⟨method, synthesized, found⟩ := exists_eq_ok_of_any
    (({} : Synthesizer).synthesizeOperation { kind := .delete, relation := .table auditEntries })
    (fun method => method.kind == .delete && method.body.sql == "delete from AuditEntry where" &&
      method.body.bindings == []) (by decide +kernel)
  simp only [Bool.and_eq_true, beq_iff_eq] at found
  obtain ⟨⟨kind, text⟩, bindings⟩ := found
  exact ⟨method, by decide +kernel, synthesized, rfl, kind, text, bindings⟩

end Synthesizer

end DataAccess

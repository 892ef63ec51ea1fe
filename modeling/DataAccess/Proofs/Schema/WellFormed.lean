import DataAccess.Method.Conventions
import DataAccess.Proofs.Outcome

/-!
What a relation that passes validation is known to be: its names are identifiers, it has columns,
and every name in a constraint is that of a column. The columns that an operation is about are
then found without failing.
-/
set_option autoImplicit false

namespace DataAccess

theorem firstViolation_eq_ok_iff (violations : List Error) :
    firstViolation violations = .ok () ↔ violations = [] := by
  cases violations <;> simp [firstViolation]

theorem identifierViolations_eq_nil_iff (text : String) :
    identifierViolations text = [] ↔ isIdentifier text = true := by
  simp [identifierViolations]

/-- A heading whose names can stand in statement text. -/
structure Heading.WellNamed (heading : Heading) : Prop where
  schema : ∀ schema ∈ heading.schema, isIdentifier schema = true
  name : isIdentifier heading.name = true
  filled : heading.columns ≠ []
  columns : ∀ column ∈ heading.columns, isIdentifier column.name = true

namespace Table

variable (table : Table)

/-- The columns with the given names, of each name the first. -/
def columnsNamed (names : List String) : List Column :=
  names.filterMap table.findColumn?

/-- Every name is that of a column. -/
def Has (names : List String) : Prop :=
  ∀ name ∈ names, ∃ column, table.findColumn? name = some column

/-- A table whose constraints are about columns that it has. -/
structure WellKeyed : Prop where
  primaryKey : ∀ key ∈ table.primaryKey, key ≠ [] ∧ table.Has key
  uniques : ∀ unique ∈ table.uniques, unique.columns ≠ [] ∧ table.Has unique.columns
  foreignKeys : ∀ key ∈ table.foreignKeys, key.columns ≠ [] ∧ table.Has key.columns
  identity : table.Has table.identity.toList

/-- The columns of foreign keys with one column, in the order of the keys. -/
def singleColumns : List String :=
  table.foreignKeys.filterMap fun key =>
    match key.columns with
    | [name] => some name
    | _ => none

variable {table}

theorem singleColumns_eq :
    table.singleColumns = table.foreignKeys.filterMap (·.singleColumn?) :=
  rfl

theorem unknownColumns_eq_nil_iff (names : List String) :
    table.unknownColumns names = [] ↔ table.Has names := by
  simp only [unknownColumns, List.map_eq_nil_iff, List.filter_eq_nil_iff, Has,
    Option.isNone_iff_eq_none]
  exact forall₂_congr fun name _ => Option.ne_none_iff_exists'

theorem constraintViolations_eq_nil_iff (constraint : String × List String) :
    table.constraintViolations constraint = [] ↔ constraint.2 ≠ [] ∧ table.Has constraint.2 := by
  by_cases empty : constraint.2 = []
  · simp [constraintViolations, empty]
  · simp [constraintViolations, empty, unknownColumns_eq_nil_iff]

theorem wellKeyed_of_ownViolations (none : (Relation.table table).ownViolations = []) :
    table.WellKeyed := by
  obtain ⟨constraints, identity⟩ := List.append_eq_nil_iff.1 none
  have sound : ∀ constraint ∈ table.constraints, constraint.2 ≠ [] ∧ table.Has constraint.2 :=
    fun constraint member => (constraintViolations_eq_nil_iff constraint).1
      (List.flatMap_eq_nil_iff.1 constraints constraint member)
  simp only [Table.constraints, List.mem_append, List.mem_map] at sound
  refine ⟨?_, ?_, ?_, (unknownColumns_eq_nil_iff _).1 identity⟩
  · intro key member
    exact sound ("primary key", key) (.inl (.inl ⟨key, by simpa using member, rfl⟩))
  · intro unique member
    exact sound _ (.inl (.inr ⟨unique, member, rfl⟩))
  · intro key member
    exact sound _ (.inr ⟨key, member, rfl⟩)

end Table

namespace Relation

variable {relation : Relation}

theorem wellNamed_of_validate (valid : relation.validate = .ok ()) :
    relation.heading.WellNamed := by
  have none := (firstViolation_eq_ok_iff _).1 valid
  simp only [violations, List.append_eq_nil_iff, List.flatMap_eq_nil_iff,
    identifierViolations_eq_nil_iff] at none
  obtain ⟨⟨⟨⟨schema, name⟩, filled⟩, columns⟩, -⟩ := none
  refine ⟨fun given member => schema given (by simpa using member), name, ?_, columns⟩
  intro empty
  simp [Relation.columns, empty] at filled

theorem ownViolations_of_validate (valid : relation.validate = .ok ()) :
    relation.ownViolations = [] :=
  (List.append_eq_nil_iff.1 ((firstViolation_eq_ok_iff _).1 valid)).2

theorem wellKeyed_of_validate {table : Table} (valid : (Relation.table table).validate = .ok ()) :
    table.WellKeyed :=
  Table.wellKeyed_of_ownViolations (ownViolations_of_validate valid)

theorem parameters_of_validate {function : TableFunction}
    (valid : (Relation.function function).validate = .ok ()) :
    ∀ parameter ∈ function.parameters, isIdentifier parameter.name = true := by
  have none := ownViolations_of_validate valid
  simpa only [ownViolations, List.flatMap_eq_nil_iff, identifierViolations_eq_nil_iff] using none

end Relation

/-- Every relation of a schema that is completed passes validation. -/
theorem Schema.validate_of_finish (schema completed : Schema)
    (accepted : schema.finish = .ok completed) (relation : Relation)
    (member : relation ∈ completed.relations) : relation.validate = .ok () := by
  obtain ⟨⟨⟩, valid, whole⟩ := (bind_eq_ok_iff _ _ _).1 accepted
  rw [(pure_eq_ok_iff _ _).1 whole] at valid
  have none := (firstViolation_eq_ok_iff _).1 valid
  exact (firstViolation_eq_ok_iff _).2 (List.flatMap_eq_nil_iff.1 none relation member)

namespace Table

variable {table : Table}

theorem of_findColumn? (name : String) (column : Column)
    (found : table.findColumn? name = some column) :
    column ∈ table.columns ∧ column.name = name := by
  refine ⟨List.mem_of_find?_eq_some found, ?_⟩
  simpa using List.find?_some found

theorem mem_columns_of_mem_columnsNamed (names : List String) (column : Column)
    (member : column ∈ table.columnsNamed names) :
    column ∈ table.columns ∧ column.name ∈ names := by
  obtain ⟨name, among, found⟩ := List.mem_filterMap.1 member
  obtain ⟨inside, rfl⟩ := of_findColumn? name column found
  exact ⟨inside, among⟩

theorem columnsNamed_cons (name : String) (rest : List String) (column : Column)
    (found : table.findColumn? name = some column) :
    table.columnsNamed (name :: rest) = column :: table.columnsNamed rest := by
  simp [columnsNamed, found]

theorem Has.tail {name : String} {rest : List String} (has : table.Has (name :: rest)) :
    table.Has rest :=
  fun other member => has other (List.mem_cons_of_mem name member)

theorem map_name_columnsNamed (names : List String) (has : table.Has names) :
    (table.columnsNamed names).map (·.name) = names := by
  induction names with
  | nil => rfl
  | cons name rest ih =>
    obtain ⟨column, found⟩ := has name List.mem_cons_self
    rw [columnsNamed_cons name rest column found, List.map_cons, ih has.tail,
      (of_findColumn? name column found).2]

theorem columnsNamed_ne_nil (names : List String) (filled : names ≠ []) (has : table.Has names) :
    table.columnsNamed names ≠ [] := by
  intro empty
  have same := map_name_columnsNamed names has
  rw [empty] at same
  exact filled same.symm

theorem constraintColumns_eq (names : List String) (has : table.Has names) :
    table.constraintColumns names = .ok (table.columnsNamed names) := by
  induction names with
  | nil => rfl
  | cons name rest ih =>
    obtain ⟨column, found⟩ := has name List.mem_cons_self
    have tail := ih has.tail
    rw [constraintColumns] at tail ⊢
    rw [List.mapM_cons, tail, columnsNamed_cons name rest column found]
    simp only [found]
    rfl

/-- Columns are only found under names that are those of columns. -/
theorem has_of_constraintColumns (names : List String) (columns : List Column)
    (found : table.constraintColumns names = .ok columns) : table.Has names := by
  intro name member
  obtain ⟨column, each⟩ := (exists_mapM_eq_ok_iff _ names).1 ⟨columns, found⟩ name member
  cases present : table.findColumn? name with
  | none => simp [present] at each
  | some column => exact ⟨column, rfl⟩

/-- The names of the primary key, if there is one. -/
def keyNames (table : Table) : List String :=
  table.primaryKey.getD []

theorem WellKeyed.has_keyNames (keyed : table.WellKeyed) : table.Has table.keyNames := by
  cases key : table.primaryKey with
  | none => simp [keyNames, key, Has]
  | some names => simpa [keyNames, key] using (keyed.primaryKey names key).2

theorem WellKeyed.keyColumns (keyed : table.WellKeyed) :
    table.keyColumns = .ok (table.columnsNamed table.keyNames) := by
  have has := keyed.has_keyNames
  cases key : table.primaryKey with
  | none => simp [Table.keyColumns, keyNames, key, columnsNamed]
  | some names =>
    simp only [keyNames, key, Option.getD_some] at has ⊢
    simpa [Table.keyColumns, key] using constraintColumns_eq names has

theorem has_singleColumns (known : ∀ key ∈ table.foreignKeys, table.Has key.columns) :
    table.Has table.singleColumns := by
  intro name member
  obtain ⟨key, among, single⟩ := List.mem_filterMap.1 member
  have has := known key among
  split at single
  · rename_i column only
    cases single
    exact has name (by simp [only])
  · cases single

theorem WellKeyed.has_singleColumns (keyed : table.WellKeyed) : table.Has table.singleColumns :=
  Table.has_singleColumns fun key among => (keyed.foreignKeys key among).2

theorem filter_columnsNamed (names : List String) (name : String) :
    (table.columnsNamed names).filter (fun column => column.name != name) =
      table.columnsNamed (names.filter (· != name)) := by
  induction names with
  | nil => rfl
  | cons other rest ih =>
    cases found : table.findColumn? other with
    | none =>
      by_cases same : other = name
      · subst same
        simpa [columnsNamed, found] using ih
      · simpa [columnsNamed, found, same] using ih
    | some column =>
      have named := (of_findColumn? other column found).2
      rw [columnsNamed_cons other rest column found]
      by_cases same : other = name
      · subst same
        simpa [named] using ih
      · rw [List.filter_cons_of_pos (by simp [named, same]),
          List.filter_cons_of_pos (by simp [same]), columnsNamed_cons other _ column found, ih]

/-- Columns found under some names repeat where the names do. -/
theorem distinctBy_columnsNamed (names : List String) :
    distinctBy (·.name) (table.columnsNamed names) = table.columnsNamed (distinct names) := by
  induction names with
  | nil => rfl
  | cons name rest ih =>
    rw [distinct_cons]
    cases found : table.findColumn? name with
    | none =>
      have skip : ∀ others, table.columnsNamed (name :: others) = table.columnsNamed others := by
        intro others
        simp [columnsNamed, found]
      have absent : (table.columnsNamed (distinct rest)).filter (fun c => c.name != name) =
          table.columnsNamed (distinct rest) := by
        apply List.filter_eq_self.2
        intro column member
        obtain ⟨other, -, foundOther⟩ := List.mem_filterMap.1 member
        rw [(of_findColumn? other column foundOther).2, bne_iff_ne]
        rintro rfl
        rw [found] at foundOther
        cases foundOther
      rw [skip, skip, ih, ← filter_columnsNamed, absent]
    | some column =>
      rw [columnsNamed_cons name rest column found, columnsNamed_cons name _ column found,
        distinctBy, ih, ← filter_columnsNamed, (of_findColumn? name column found).2]

/-- The columns that reading all rows is filtered by. -/
theorem filterColumns_eq (has : table.Has table.singleColumns) :
    table.filterColumns = .ok (table.columnsNamed (distinct table.singleColumns)) := by
  have each : ∀ names, table.Has names →
      names.mapM table.filterColumn = .ok (table.columnsNamed names) := by
    intro names has
    induction names with
    | nil => rfl
    | cons name rest ih =>
      obtain ⟨column, found⟩ := has name List.mem_cons_self
      rw [List.mapM_cons, ih has.tail, columnsNamed_cons name rest column found]
      simp only [filterColumn, found]
      rfl
  have all := each table.singleColumns has
  rw [singleColumns_eq] at all
  rw [Table.filterColumns, all, ok_bind, distinctBy_columnsNamed]
  rfl

theorem WellKeyed.filterColumns (keyed : table.WellKeyed) :
    table.filterColumns = .ok (table.columnsNamed (distinct table.singleColumns)) :=
  filterColumns_eq keyed.has_singleColumns

theorem identityColumn?_eq_some_iff (column : Column) :
    table.identityColumn? = some column ↔
      ∃ name, table.identity = some name ∧ table.findColumn? name = some column := by
  simp [identityColumn?, Option.bind_eq_some_iff]

/-- The identity of a well-keyed table is one of its columns. -/
theorem WellKeyed.map_name_identityColumn? (keyed : table.WellKeyed) :
    table.identityColumn?.map (·.name) = table.identity := by
  cases identity : table.identity with
  | none => simp [identityColumn?, identity]
  | some name =>
    obtain ⟨column, found⟩ := keyed.identity name (by simp [identity])
    simp [identityColumn?, identity, found, (of_findColumn? name column found).2]

/-- A well-keyed table has one key column where its primary key has one name. -/
theorem WellKeyed.keyColumns_eq_singleton_iff (keyed : table.WellKeyed) (key : Column) :
    table.keyColumns = .ok [key] ↔
      table.primaryKey = some [key.name] ∧ table.findColumn? key.name = some key := by
  have names := map_name_columnsNamed table.keyNames keyed.has_keyNames
  rw [keyed.keyColumns, Except.ok.injEq]
  constructor
  · intro located
    rw [located, keyNames] at names
    have primary : table.primaryKey = some [key.name] := by
      cases present : table.primaryKey with
      | none => simp [present] at names
      | some given => simpa [present] using names.symm
    refine ⟨primary, ?_⟩
    have member : key ∈ table.columnsNamed [key.name] := by
      rw [keyNames, primary, Option.getD_some] at located
      rw [located]
      exact List.mem_singleton_self key
    obtain ⟨name, among, found⟩ := List.mem_filterMap.1 member
    rwa [List.mem_singleton.1 among] at found
  · rintro ⟨primary, found⟩
    simp [keyNames, primary, columnsNamed, found]

end Table

/-- A table with a constraint of every kind, for examples. -/
def orders : Table where
  schema := some "shop"
  name := "Orders"
  columns := [
    { name := "Id", declaredType := "int" },
    { name := "CustomerId", declaredType := "int" },
    { name := "Note", declaredType := "nvarchar(50)", nullable := true }]
  primaryKey := some ["Id"]
  uniques := [{ columns := ["CustomerId", "Note"] }]
  foreignKeys := [{ columns := ["CustomerId"], target := "Customers" }]
  identity := some "Id"

theorem validate_orders : (Relation.table orders).validate = .ok () := by
  decide +kernel

end DataAccess

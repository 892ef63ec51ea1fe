import DataAccess.Proofs.Method.Links

/-!
Keys that a method generates. An insert gives the key attribute of a row a new GUID where the
primary key is one GUID column and no identity. Whether the statement sends the value is decided
by the columns that the insert writes, and these are without the excluded ones.
-/
set_option autoImplicit false

namespace DataAccess

/-- Whether the statement of a method reads a value from a source. -/
def Method.Sends (method : Method) (source : ValueSource) : Prop :=
  ∃ binding ∈ method.body.bindings, binding.direction = .input ∧ binding.source = source

/-- An insert into a table whose primary key is one GUID column and no identity. -/
def Synthesizer.GeneratesKey (synthesizer : Synthesizer) (operation : Operation)
    (property : String) : Prop :=
  operation.kind = .insert ∧ ∃ table key type, operation.relation = .table table ∧
    table.primaryKey = some [key.name] ∧ table.findColumn? key.name = some key ∧
    table.identity ≠ some key.name ∧ synthesizer.types key.declaredType = some type ∧
    type.isGuid = true ∧ property = synthesizer.naming.property key.name

section Steps

theorem generateKey_mem_around_iff (property : String) (before after : List Step)
    (call : ExecuteCall) :
    .generateKey property ∈ (ExecutionContract.around before call after).steps ↔
      .generateKey property ∈ before ∨ .generateKey property ∈ after := by
  simp [ExecutionContract.around]

/-- After its statement a method only copies identities. -/
theorem generateKey_not_mem_stepsAfter (property : String) (operation : Operation)
    (bindings : List Binding) : .generateKey property ∉ operation.stepsAfter bindings := by
  unfold Operation.stepsAfter
  split
  · intro member
    obtain ⟨binding, -, copied⟩ := List.mem_filterMap.1 member
    unfold Binding.writeBack? at copied
    split at copied <;> cases copied
  · exact List.not_mem_nil

end Steps

namespace Conventions

variable (conventions : Conventions)

/-- A key is generated for the only column of a primary key that is a GUID and no identity. -/
theorem guidKeyProperty?_eq_some_iff (relation : Relation) (table : Table) (property : String) :
    conventions.guidKeyProperty? relation table = .ok (some property) ↔
      ∃ key type, table.keyColumns = .ok [key] ∧ table.identity ≠ some key.name ∧
        conventions.types key.declaredType = some type ∧ type.isGuid = true ∧
        property = conventions.naming.property key.name := by
  unfold guidKeyProperty?
  constructor
  · intro made
    obtain ⟨columns, located, later⟩ := (bind_eq_ok_iff _ _ _).1 made
    split at later
    · rename_i key
      by_cases identity : table.identity = some key.name
      · simp [identity] at later
      · simp only [identity, ↓reduceIte, resolve] at later
        cases known : conventions.types key.declaredType with
        | none => simp [known] at later
        | some type =>
          simp only [known, ok_bind, pure_eq_ok_iff] at later
          cases guid : type.isGuid with
          | false => simp [guid] at later
          | true =>
            simp only [guid, ↓reduceIte, Option.some.injEq] at later
            exact ⟨key, type, located, identity, known, guid, later.symm⟩
    · simp at later
  · rintro ⟨key, type, located, identity, known, guid, rfl⟩
    simp [located, identity, resolve, known, guid]

/-- At most one key is prepared, and only by an insert into a table. -/
theorem exists_key_of_stepsBefore (operation : Operation) (before : List Step)
    (prepared : conventions.stepsBefore operation = .ok before) :
    ∃ key : Option String, before = key.toList.map .generateKey ∧
      ∀ property, key = some property ↔
        operation.kind = .insert ∧ ∃ table, operation.relation = .table table ∧
          conventions.guidKeyProperty? operation.relation table = .ok (some property) := by
  unfold stepsBefore at prepared
  split at prepared
  · rename_i table kind onRelation
    obtain ⟨key, found, whole⟩ := (bind_eq_ok_iff _ _ _).1 prepared
    refine ⟨key, ((pure_eq_ok_iff _ _).1 whole).symm, fun property => ?_⟩
    rw [onRelation] at found
    simp [kind, onRelation, found]
  · rename_i notInsert
    cases prepared
    refine ⟨none, rfl, fun property => ?_⟩
    simp only [reduceCtorEq, false_iff, not_and, not_exists]
    intro kind table onTable
    exact absurd onTable (notInsert table kind)

theorem exists_of_generateKey_mem (operation : Operation) (before : List Step)
    (prepared : conventions.stepsBefore operation = .ok before) (property : String)
    (member : .generateKey property ∈ before) :
    operation.kind = .insert ∧ ∃ table, operation.relation = .table table ∧
      conventions.guidKeyProperty? operation.relation table = .ok (some property) := by
  obtain ⟨key, rfl, generates⟩ := conventions.exists_key_of_stepsBefore operation before prepared
  apply (generates property).1
  simpa using member

end Conventions

namespace Synthesizer

variable {synthesizer : Synthesizer} {operation : Operation} {method : Method} {table : Table}

/-- An insert sends the attributes of the columns that it writes. -/
theorem Makes.sends_entity_iff (makes : synthesizer.Makes operation method)
    (onTable : operation.relation = .table table) (kind : operation.kind = .insert)
    (property : String) :
    method.Sends (.entity property) ↔
      ∃ column ∈ table.inserted synthesizer.settings.insertExclusions,
        synthesizer.naming.property column.name = property := by
  have sent : method.Sends (.entity property) ↔
      ∃ link ∈ method.body.bindings.map (·.link),
        link.direction = .input ∧ link.source = .entity property := by
    simp [Method.Sends, Binding.link]
  rw [sent, makes.links]
  simp only [Conventions.shape, onTable, kind, Conventions.links, List.mem_append, List.mem_map,
    Option.mem_toList, Conventions.columnLink]
  constructor
  · rintro ⟨link, ⟨column, written, rfl⟩ | ⟨column, -, rfl⟩, direction, source⟩
    · exact ⟨column, written, ValueSource.entity.inj source⟩
    · cases direction
  · rintro ⟨column, written, rfl⟩
    exact ⟨_, .inl ⟨column, written, rfl⟩, rfl, rfl⟩

/-- A key is generated for what the conventions find to be the GUID key of the table. -/
theorem generatesKey_iff (grounded : operation.IsGrounded) (property : String) :
    synthesizer.GeneratesKey operation property ↔
      operation.kind = .insert ∧ ∃ table, operation.relation = .table table ∧
        synthesizer.conventions.guidKeyProperty? operation.relation table =
          .ok (some property) := by
  simp only [Conventions.guidKeyProperty?_eq_some_iff]
  apply and_congr_right
  intro kind
  constructor
  · rintro ⟨table, key, type, onTable, primary, found, rest⟩
    have located := ((grounded.wellKeyed onTable).keyColumns_eq_singleton_iff key).2
      ⟨primary, found⟩
    exact ⟨table, onTable, key, type, located, rest⟩
  · rintro ⟨table, onTable, key, type, located, rest⟩
    obtain ⟨primary, found⟩ := ((grounded.wellKeyed onTable).keyColumns_eq_singleton_iff key).1
      located
    exact ⟨table, key, type, onTable, primary, found, rest⟩

/-- What is known of the key that a method generates. -/
theorem Makes.exists_generated (makes : synthesizer.Makes operation method) (property : String)
    (generated : .generateKey property ∈ method.body.contract.steps) :
    operation.kind = .insert ∧ ∃ table key type, operation.relation = .table table ∧
      key ∈ table.columns ∧ table.primaryKey = some [key.name] ∧
      table.identity ≠ some key.name ∧ synthesizer.types key.declaredType = some type ∧
      type.isGuid = true ∧ property = synthesizer.naming.property key.name := by
  obtain ⟨before, prepared, contract⟩ := makes.contract
  rw [contract, generateKey_mem_around_iff] at generated
  have early := generated.resolve_right (generateKey_not_mem_stepsAfter property operation _)
  obtain ⟨kind, table, key, type, onTable, primary, present, identity, known, guid, same⟩ :=
    (generatesKey_iff makes.grounded property).2
      (Conventions.exists_of_generateKey_mem _ operation before prepared property early)
  exact ⟨kind, table, key, type, onTable, (Table.of_findColumn? key.name key present).1, primary,
    identity, known, guid, same⟩

/-- A key that a method generates is sent exactly if inserts do not leave its column out or
another written column has the same attribute. -/
theorem sends_generatedKey_iff (synthesizer : Synthesizer) (table : Table) (method : Method)
    (given : synthesizer.Gives (.table table) method) (property : String)
    (generated : .generateKey property ∈ method.body.contract.steps) :
    ∃ key, table.primaryKey = some [key] ∧ property = synthesizer.naming.property key ∧
      (method.Sends (.entity property) ↔
        key ∉ synthesizer.settings.insertExclusions ∨
          ∃ column ∈ table.inserted synthesizer.settings.insertExclusions,
            column.name ≠ key ∧ synthesizer.naming.property column.name = property) := by
  obtain ⟨operation, onTable, makes⟩ := given.exists_makes
  obtain ⟨kind, owner, key, type, onOwner, among, primary, identity, -, -, same⟩ :=
    makes.exists_generated property generated
  obtain rfl : owner = table := by simpa [onTable] using onOwner.symm
  have writes : key ∈ owner.inserted synthesizer.settings.insertExclusions ↔
      key.name ∉ synthesizer.settings.insertExclusions := by
    simp [Table.inserted, among, identity]
  refine ⟨key.name, primary, same, ?_⟩
  rw [makes.sends_entity_iff onTable kind property]
  constructor
  · rintro ⟨column, written, source⟩
    -- Columns may share a name, so another one of the key's name says the same of the key.
    by_cases itself : column.name = key.name
    · left
      have kept := (List.mem_filter.1 written).2
      rw [itself] at kept
      exact writes.1 (List.mem_filter.2 ⟨among, kept⟩)
    · exact .inr ⟨column, written, itself, source⟩
  · rintro (kept | ⟨column, written, -, source⟩)
    · exact ⟨key, writes.2 kept, same.symm⟩
    · exact ⟨column, written, source⟩

/-- A table with a GUID for its key. -/
def documents : Table where
  name := "Documents"
  columns := [
    { name := "Id", declaredType := "uniqueidentifier" },
    { name := "Title", declaredType := "nvarchar(200)" }]
  primaryKey := some ["Id"]

theorem sends_generatedKey_iff_documents :
    ∃ method, ({} : Synthesizer).Gives (.table documents) method ∧
      .generateKey "id" ∈ method.body.contract.steps ∧ method.Sends (.entity "id") := by
  obtain ⟨method, made, generated⟩ := exists_eq_ok_of_any
    (({} : Synthesizer).synthesizeOperation { kind := .insert, relation := .table documents })
    (fun method => method.body.contract.steps.contains (.generateKey "id")) (by decide +kernel)
  have given : ({} : Synthesizer).Gives (.table documents) method := .inr ⟨_, rfl, made⟩
  have inside : .generateKey "id" ∈ method.body.contract.steps := by simpa using generated
  obtain ⟨key, -, -, sent⟩ := sends_generatedKey_iff {} documents method given "id" inside
  exact ⟨method, given, inside, sent.2 (.inl List.not_mem_nil)⟩

/-- A key that is generated and not sent. -/
theorem exists_generatedKey_not_sent :
    ∃ method, ({ settings := { insertExclusions := ["Id"] } } : Synthesizer).Gives
        (.table documents) method ∧
      .generateKey "id" ∈ method.body.contract.steps ∧ ¬ method.Sends (.entity "id") := by
  obtain ⟨method, made, found⟩ := exists_eq_ok_of_any
    (({ settings := { insertExclusions := ["Id"] } } : Synthesizer).synthesizeOperation
      { kind := .insert, relation := .table documents })
    (fun method => method.body.contract.steps.contains (.generateKey "id") &&
      method.body.bindings.all (·.source != .entity "id")) (by decide +kernel)
  simp only [Bool.and_eq_true, List.contains_iff_mem, List.all_eq_true, bne_iff_ne] at found
  refine ⟨method, .inr ⟨_, rfl, made⟩, found.1, ?_⟩
  rintro ⟨binding, member, -, source⟩
  exact found.2 binding member source

end Synthesizer

end DataAccess

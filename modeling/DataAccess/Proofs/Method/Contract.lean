import DataAccess.Proofs.Method.GeneratedKey

/-!
The exchange of a method with the database: the key that it generates, the values that it sends and
the value that it gets back. Steps, bindings and parameters are made apart from each other, and all
of them go by the same exchange.
-/
set_option autoImplicit false

namespace DataAccess

/-- A value that the database makes for a row: the placeholder that it fills and the attribute
that it is for. -/
structure Output where
  name : String
  property : String
  type : ResolvedType
deriving DecidableEq

def Output.binding (output : Output) : Binding :=
  ⟨output.name, .entity output.property, .output, output.type⟩

def Output.writeBack (output : Output) : Step :=
  .writeBackIdentity output.property output.name output.type.target

structure Exchange where
  /-- The attribute that gets a new GUID. -/
  key : Option String := none
  inputs : List Binding
  output : Option Output := none
deriving DecidableEq

namespace Exchange

variable (exchange : Exchange)

def bindings : List Binding :=
  exchange.inputs ++ exchange.output.toList.map (·.binding)

/-- The connection is held for one call and for what copies its output. -/
def steps (call : ExecuteCall) : List Step :=
  exchange.key.toList.map .generateKey ++ [.acquireConnection, .execute call] ++
    exchange.output.toList.map (·.writeBack) ++ [.releaseConnection]

/-- Whether the row of the caller is written to. -/
def changesRow : Bool :=
  exchange.key.isSome || exchange.output.isSome

end Exchange

/-- The call that fetches what a method returns. -/
def ReturnShape.call : ReturnShape → ExecuteCall
  | .rows entity => .queryRows entity
  | .optionalRow entity => .queryOptionalRow entity
  | .affectedRows => .execute

/-- A method that goes by an exchange. -/
structure Method.Performs (method : Method) (exchange : Exchange) : Prop where
  bindings : method.body.bindings = exchange.bindings
  steps : method.body.contract.steps = exchange.steps method.returns.call
  call : method.body.contract.call? = some method.returns.call
  writeBack : method.body.contract.identityWriteBack? = exchange.output.map (·.writeBack)
  entity : method.kind ≠ .readAll → ∃ name,
    method.parameters = [⟨entityArgument, .entity name exchange.changesRow, none⟩]
  scalars : method.kind = .readAll → ∀ parameter ∈ method.parameters,
    ∃ target optional, parameter.type = .scalar target optional

/-- The exchange that an operation asks for. -/
structure Synthesizer.Asks (synthesizer : Synthesizer) (operation : Operation)
    (exchange : Exchange) : Prop where
  key_iff : ∀ property, exchange.key = some property ↔ synthesizer.GeneratesKey operation property
  output_iff : exchange.output.isSome = true ↔ operation.kind = .insert ∧
    ∃ table, operation.relation = .table table ∧ table.identity.isSome = true
  sent : ∀ binding ∈ exchange.inputs, binding.direction = .input
  /-- An insert sends the columns that it writes, in their order. -/
  written : ∀ table, operation.kind = .insert → operation.relation = .table table →
    List.Forall₂ (synthesizer.conventions.BindsColumn operation.relation .input)
      (table.inserted synthesizer.settings.insertExclusions) exchange.inputs
  /-- What comes back is the identity. -/
  generated : ∀ table, operation.relation = .table table → ∀ output ∈ exchange.output,
    ∃ column, table.identityColumn? = some column ∧
      synthesizer.conventions.BindsColumn operation.relation .output column output.binding

namespace Exchange

variable (exchange : Exchange) (call : ExecuteCall)

theorem call?_steps : ExecutionContract.call? ⟨exchange.steps call⟩ = some call := by
  obtain ⟨key, inputs, output⟩ := exchange
  cases key <;> rfl

theorem identityWriteBack?_steps :
    ExecutionContract.identityWriteBack? ⟨exchange.steps call⟩ =
      exchange.output.map (·.writeBack) := by
  obtain ⟨key, inputs, output⟩ := exchange
  cases key <;> cases output <;> rfl

theorem changesRow_eq :
    (!(exchange.key.toList.map Step.generateKey).isEmpty ||
      !(exchange.output.toList.map (·.writeBack)).isEmpty) = exchange.changesRow := by
  obtain ⟨key, inputs, output⟩ := exchange
  cases key <;> cases output <;> rfl

/-- After an insert the outputs are copied, and there are no others. -/
theorem filterMap_writeBack?_bindings (sent : ∀ binding ∈ exchange.inputs,
    binding.direction = .input) :
    exchange.bindings.filterMap (·.writeBack?) = exchange.output.toList.map (·.writeBack) := by
  have none : exchange.inputs.filterMap (·.writeBack?) = [] := by
    apply List.filterMap_eq_nil_iff.2
    intro binding member
    simp [Binding.writeBack?, sent binding member]
  rw [bindings, List.filterMap_append, none, List.nil_append, List.filterMap_map]
  cases exchange.output <;> rfl

end Exchange

theorem executeCall_eq (kind : OperationKind) (entity : String) :
    executeCall kind entity = (returnShape kind entity).call := by
  cases kind <;> rfl

namespace Conventions

variable (conventions : Conventions)

/-- A column that is read back has one output. -/
theorem exists_output (relation : Relation) (found : Option Column) (outputs : List Binding)
    (bound : List.Forall₂ (conventions.BindsColumn relation .output) found.toList outputs) :
    ∃ output : Option Output, outputs = output.toList.map (·.binding) ∧
      output.isSome = found.isSome ∧ ∀ made ∈ output, ∃ column, found = some column ∧
        conventions.BindsColumn relation .output column made.binding := by
  cases found with
  | none =>
    cases bound
    exact ⟨none, rfl, rfl, fun _ absent => by cases absent⟩
  | some column =>
    obtain ⟨binding, rest, binds, nothing, rfl⟩ := List.forall₂_cons_left_iff.1 bound
    cases nothing
    obtain ⟨name, source, direction, type⟩ := binding
    obtain rfl : source = _ := binds.source
    obtain rfl : direction = .output := binds.direction
    refine ⟨some ⟨name, _, type⟩, rfl, rfl, ?_⟩
    rintro made ⟨⟩
    exact ⟨column, rfl, binds⟩

/-- An insert binds what it writes and then what it reads back. -/
theorem exists_of_bind_insert (operation : Operation) (grounded : operation.IsGrounded)
    (table : Table) (kind : operation.kind = .insert) (onTable : operation.relation = .table table)
    (bindings : List Binding) (bound : conventions.bind operation = .ok bindings) :
    ∃ inputs, ∃ output : Option Output, bindings = inputs ++ output.toList.map (·.binding) ∧
      (∀ binding ∈ inputs, binding.direction = .input) ∧
      List.Forall₂ (conventions.BindsColumn operation.relation .input)
        (table.inserted conventions.insertExclusions) inputs ∧
      output.isSome = table.identityColumn?.isSome ∧ ∀ made ∈ output, ∃ column,
        table.identityColumn? = some column ∧
          conventions.BindsColumn operation.relation .output column made.binding := by
  have filled := conventions.fills_of_bind operation grounded bindings bound
  have inserts : conventions.shape operation =
      .insert (table.inserted conventions.insertExclusions) table.identityColumn? := by
    simp only [shape, onTable, kind]
  rw [inserts] at filled
  cases filled with
  | @insert columns identity inputs outputs written generated =>
    obtain ⟨output, rfl, present, made⟩ := conventions.exists_output _ _ outputs generated
    refine ⟨inputs, output, rfl, ?_, written, present, made⟩
    intro binding member
    obtain ⟨column, -, binds⟩ := exists_of_mem_forall₂ written binding member
    exact binds.direction

theorem direction_of_mem_links (shape : Shape) (link : Link)
    (member : link ∈ conventions.links shape) :
    link.direction = .input ∨ ∃ columns identity, shape = .insert columns identity := by
  cases shape with
  | insert columns identity => exact .inr ⟨columns, identity, rfl⟩
  | whole => cases member
  | rows filters order =>
    left
    rcases List.mem_append.1 member with filtered | paged
    · obtain ⟨filter, -, rfl⟩ := List.mem_map.1 filtered
      rfl
    · cases order with
      | none => cases paged
      | some first =>
        obtain ⟨name, -, rfl⟩ := List.mem_map.1 paged
        rfl
  | call parameters =>
    obtain ⟨parameter, -, rfl⟩ := List.mem_map.1 member
    exact .inl rfl
  | lookup key | delete key =>
    obtain ⟨column, -, rfl⟩ := List.mem_map.1 member
    exact .inl rfl
  | update written key =>
    left
    rcases List.mem_append.1 member with assigned | located
    · obtain ⟨column, -, rfl⟩ := List.mem_map.1 assigned
      rfl
    · obtain ⟨column, -, rfl⟩ := List.mem_map.1 located
      rfl

theorem kind_of_shape_insert (operation : Operation) (columns : List Column)
    (identity : Option Column) (inserts : conventions.shape operation = .insert columns identity) :
    operation.kind = .insert := by
  unfold shape at inserts
  split at inserts
  · cases inserts
  · cases inserts
  · split at inserts
    case h_4 kind => exact kind
    all_goals cases inserts

/-- Only an insert has an output. -/
theorem direction_of_bind (operation : Operation) (grounded : operation.IsGrounded)
    (notInsert : operation.kind ≠ .insert) (bindings : List Binding)
    (bound : conventions.bind operation = .ok bindings) :
    ∀ binding ∈ bindings, binding.direction = .input := by
  intro binding member
  have linked : binding.link ∈ conventions.links (conventions.shape operation) := by
    rw [← conventions.links_of_bind operation grounded bindings bound]
    exact List.mem_map_of_mem member
  rcases conventions.direction_of_mem_links _ _ linked with input | ⟨columns, identity, inserts⟩
  · exact input
  · exact absurd (conventions.kind_of_shape_insert operation columns identity inserts) notInsert

/-- Reading all rows takes scalars only. -/
theorem scalar_of_readAllParameters (operation : Operation) (parameters : List CallerParameter)
    (passed : conventions.readAllParameters operation = .ok parameters) :
    ∀ parameter ∈ parameters, ∃ target optional, parameter.type = .scalar target optional := by
  intro parameter member
  cases onRelation : operation.relation with
  | table table =>
    obtain ⟨filters, scalars, -, rfl, -⟩ :=
      conventions.exists_filters_of_readAllParameters operation table onRelation parameters passed
    rcases List.mem_append.1 member with paged | filtered
    · split at paged
      · obtain ⟨scalar, -, rfl⟩ := List.mem_map.1 paged
        exact ⟨_, _, rfl⟩
      · cases paged
    · obtain ⟨scalar, -, rfl⟩ := List.mem_map.1 filtered
      exact ⟨_, _, rfl⟩
  | view view =>
    simp only [readAllParameters, onRelation, Except.ok.injEq] at passed
    rw [← passed] at member
    cases member
  | function function =>
    simp only [readAllParameters, onRelation, mapM_functionParameter_eq_ok_iff] at passed
    obtain ⟨scalars, -, rfl⟩ := passed
    obtain ⟨scalar, -, rfl⟩ := List.mem_map.1 member
    exact ⟨_, _, rfl⟩

end Conventions

namespace Synthesizer

variable {synthesizer : Synthesizer} {operation : Operation} {exchange : Exchange}

/-- The parts of a method are those of the exchange that its operation asks for. -/
theorem exists_asks (grounded : operation.IsGrounded) (before : List Step)
    (bindings : List Binding)
    (prepared : synthesizer.conventions.stepsBefore operation = .ok before)
    (bound : synthesizer.conventions.bind operation = .ok bindings) :
    ∃ exchange, synthesizer.Asks operation exchange ∧
      before = exchange.key.toList.map .generateKey ∧ bindings = exchange.bindings := by
  obtain ⟨key, rfl, generates⟩ :=
    Conventions.exists_key_of_stepsBefore _ operation before prepared
  have key_iff : ∀ property, key = some property ↔ synthesizer.GeneratesKey operation property :=
    fun property => (generates property).trans (generatesKey_iff grounded property).symm
  by_cases kind : operation.kind = .insert
  · obtain ⟨table, onTable⟩ := grounded.exists_table (by simp [kind])
    have only : ∀ other, operation.relation = .table other → other = table := by
      intro other same
      exact Relation.table.inj (same.symm.trans onTable)
    obtain ⟨inputs, output, rfl, sent, written, present, made⟩ :=
      Conventions.exists_of_bind_insert _ operation grounded table kind onTable bindings bound
    refine ⟨⟨key, inputs, output⟩, ⟨key_iff, ?_, sent, ?_, ?_⟩, rfl, rfl⟩
    · have named := (grounded.wellKeyed onTable).map_name_identityColumn?
      have identity : output.isSome = table.identity.isSome := by
        rw [present, ← named, Option.isSome_map]
      constructor
      · intro some
        exact ⟨kind, table, onTable, identity.symm.trans some⟩
      · rintro ⟨-, other, same, some⟩
        rw [only other same] at some
        exact identity.trans some
    · rintro other - same
      rw [only other same]
      exact written
    · rintro other same
      rw [only other same]
      exact made
  · have sent := Conventions.direction_of_bind _ operation grounded kind bindings bound
    refine ⟨⟨key, bindings, none⟩, ⟨key_iff, ?_, sent, ?_, ?_⟩, rfl, by simp [Exchange.bindings]⟩
    · simp [kind]
    · exact fun table insert => absurd insert kind
    · exact fun table onTable output absent => by cases absent

/-- What follows the statement copies the output of the exchange. -/
theorem Asks.stepsAfter_eq (asks : synthesizer.Asks operation exchange) :
    operation.stepsAfter exchange.bindings = exchange.output.toList.map (·.writeBack) := by
  by_cases kind : operation.kind = .insert
  · rw [Operation.stepsAfter, kind]
    exact exchange.filterMap_writeBack?_bindings asks.sent
  · have absent : exchange.output = none := by
      cases output : exchange.output with
      | none => rfl
      | some made => exact absurd (asks.output_iff.1 (by simp [output])).1 kind
    unfold Operation.stepsAfter
    rw [absent]
    split
    · contradiction
    · rfl

/-- The steps around the statement are those of the exchange. -/
theorem Asks.contract_eq (asks : synthesizer.Asks operation exchange) (entity : String) :
    .around (exchange.key.toList.map .generateKey) (executeCall operation.kind entity)
        (operation.stepsAfter exchange.bindings) =
      ExecutionContract.mk (exchange.steps (returnShape operation.kind entity).call) := by
  rw [asks.stepsAfter_eq, executeCall_eq]
  rfl

/-- Every method that is given out performs the exchange that its operation asks for. -/
theorem exists_exchange (synthesizer : Synthesizer) (operation : Operation) (method : Method)
    (synthesized : synthesizer.synthesizeOperation operation = .ok method) :
    method.kind = operation.kind ∧
      ∃ exchange, synthesizer.Asks operation exchange ∧ method.Performs exchange := by
  obtain ⟨valid, statement, bindings, rendered, bound, assembled⟩ :=
    synthesizer.exists_of_synthesizeOperation operation method synthesized
  have grounded := Conventions.isGrounded_of_render _ operation statement valid rendered
  obtain ⟨before, parameters, prepared, passed, rfl⟩ :=
    Conventions.exists_eq_of_assemble _ _ _ _ _ assembled
  obtain ⟨exchange, asks, rfl, rfl⟩ := exists_asks grounded before bindings prepared bound
  rw [asks.stepsAfter_eq, exchange.changesRow_eq] at passed
  have contract := asks.contract_eq (synthesizer.naming.entity operation.relation)
  refine ⟨rfl, exchange, asks, rfl, congrArg (·.steps) contract, ?_, ?_, ?_, ?_⟩
  · exact (congrArg (·.call?) contract).trans (exchange.call?_steps _)
  · exact (congrArg (·.identityWriteBack?) contract).trans (exchange.identityWriteBack?_steps _)
  · intro notReadAll
    refine ⟨synthesizer.naming.entity operation.relation, ?_⟩
    unfold Conventions.callerParameters at passed
    split at passed
    · contradiction
    · exact (Except.ok.inj passed).symm
  · intro readAll
    have kind : operation.kind = .readAll := readAll
    rw [Conventions.callerParameters, kind] at passed
    exact Conventions.scalar_of_readAllParameters _ operation parameters passed

/-- A table with a GUID for its key and with a number that the database counts up. -/
def parcels : Table where
  name := "Parcels"
  columns := [
    { name := "Id", declaredType := "uniqueidentifier" },
    { name := "Weight", declaredType := "int" },
    { name := "Number", declaredType := "int" }]
  primaryKey := some ["Id"]
  identity := some "Number"

/-- An insert with both optional steps. -/
theorem exists_exchange_parcels :
    ∃ method exchange, ({} : Synthesizer).synthesizeOperation
        { kind := .insert, relation := .table parcels } = .ok method ∧
      method.Performs exchange ∧ exchange.key = some "id" ∧ exchange.output.isSome = true ∧
      method.body.contract.steps = [.generateKey "id", .acquireConnection, .execute .execute,
        .writeBackIdentity "number" "Number" "i32", .releaseConnection] := by
  obtain ⟨method, synthesized, steps⟩ := exists_eq_ok_of_any
    (({} : Synthesizer).synthesizeOperation { kind := .insert, relation := .table parcels })
    (fun method => method.body.contract.steps == [.generateKey "id", .acquireConnection,
      .execute .execute, .writeBackIdentity "number" "Number" "i32", .releaseConnection])
    (by decide +kernel)
  obtain ⟨-, exchange, asks, performs⟩ := exists_exchange {} _ method synthesized
  refine ⟨method, exchange, synthesized, performs, ?_, ?_, beq_iff_eq.1 steps⟩
  · exact (asks.key_iff "id").2 ⟨rfl, parcels,
      { name := "Id", declaredType := "uniqueidentifier" }, _, rfl, rfl, rfl, by decide, rfl, rfl,
      by decide +kernel⟩
  · exact asks.output_iff.2 ⟨rfl, parcels, rfl, rfl⟩

end Synthesizer

end DataAccess

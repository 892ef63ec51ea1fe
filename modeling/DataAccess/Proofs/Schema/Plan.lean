import DataAccess.Proofs.Method.Assembly
import DataAccess.Proofs.Method.Shapes

/-!
The plan of a schema and its synthesis. Both go through the relations in the same order and, for
each of them, through the same operations. Synthesis gives a method for every planned operation,
or it ends at the first relation that fails, and there at the first operation that does.
-/
set_option autoImplicit false

namespace DataAccess

/-- The kinds of operation on a table, each with its constraint, by what the table has. -/
def Table.supported (table : Table) : List (OperationKind × Option Unique) :=
  let kinds : List OperationKind :=
    match table.primaryKey with
    | some _ => [.readAll, .readByKey, .insert, .update, .delete]
    | none => [.readAll, .insert]
  kinds.map (fun kind => (kind, none)) ++
    table.uniques.map fun unique => (.readByUnique, some unique)

/-- What a method is listed by: the full name of its relation, its kind and its name. -/
def Method.label (method : Method) : String × OperationKind × String :=
  (method.relation, method.kind, method.name)

/-- What the method of an operation will be listed by. -/
def Operation.label (naming : Naming) (operation : Operation) : String × OperationKind × String :=
  (operation.relation.fullName, operation.kind,
    naming.method operation.relation operation.kind operation.unique)

/-- How the synthesis of a schema goes along its plan. -/
structure Synthesizer.FollowsPlan (synthesizer : Synthesizer) (schema : Schema) : Prop where
  /-- Tables, then views, then functions, and the operations of each. -/
  planned : schema.plan synthesizer.settings =
    (schema.tables.flatMap fun table => table.supported.map fun (kind, unique) =>
      { kind, relation := .table table, unique
        settings := synthesizer.settings.forRelation (.table table) }) ++
    (schema.views.map fun view =>
      { kind := .readAll, relation := .view view
        settings := synthesizer.settings.forRelation (.view view) }) ++
    schema.functions.map fun function =>
      { kind := .readAll, relation := .function function
        settings := synthesizer.settings.forRelation (.function function) }
  counted : ∀ table, (synthesizer.plan (.table table)).length =
    2 + (if table.primaryKey.isSome then 3 else 0) + table.uniques.length
  succeeds_iff : (∃ entries, synthesizer.synthesizeSchema schema = .ok entries) ↔
    ∀ relation ∈ schema.relations, ∃ entry, synthesizer.synthesizeRelation relation = .ok entry
  /-- The entries are those of the relations, each made without the others. -/
  entries_iff : ∀ entries, synthesizer.synthesizeSchema schema = .ok entries ↔
    List.Forall₂ (fun relation entry => synthesizer.synthesizeRelation relation = .ok entry)
      schema.relations entries
  labels : ∀ entries, synthesizer.synthesizeSchema schema = .ok entries →
    (entries.flatMap fun entry => entry.methods.map (·.label)) =
      (schema.plan synthesizer.settings).map (·.label synthesizer.naming)
  fails_iff : ∀ failure, synthesizer.synthesizeSchema schema = .error failure ↔
    FailsFirst synthesizer.synthesizeRelation schema.relations failure
  /-- A relation fails by itself or by an operation. -/
  relation_fails_iff : ∀ relation failure,
    synthesizer.synthesizeRelation relation = .error failure ↔
      relation.validate = .error failure ∨
        relation.validate = .ok () ∧
          FailsFirst synthesizer.synthesizeOperation (synthesizer.plan relation) failure

section Plan

theorem Table.operations_eq_supported (table : Table) : table.operations = table.supported := by
  unfold operations supported
  cases table.primaryKey with
  | none => rfl
  | some key => rfl

theorem Table.length_supported (table : Table) :
    table.supported.length =
      2 + (if table.primaryKey.isSome then 3 else 0) + table.uniques.length := by
  rw [supported, List.length_append, List.length_map, List.length_map]
  cases table.primaryKey with
  | none => rfl
  | some key => rfl

/-- The operations of tables, then of views, then of functions. -/
theorem Schema.plan_eq (schema : Schema) (settings : Settings) :
    schema.plan settings =
      (schema.tables.flatMap fun table => table.supported.map fun (kind, unique) =>
        { kind, relation := .table table, unique
          settings := settings.forRelation (.table table) }) ++
      (schema.views.map fun view =>
        { kind := .readAll, relation := .view view
          settings := settings.forRelation (.view view) }) ++
      schema.functions.map fun function =>
        { kind := .readAll, relation := .function function
          settings := settings.forRelation (.function function) } := by
  simp only [plan, relations, List.flatMap_append, List.flatMap_map, Relation.plan,
    Table.operations_eq_supported, ← List.map_eq_flatMap]

example :
    (Schema.plan { tables := [orders], views := [{ name := "Totals" }] } {}).map
        (·.label defaultNaming) = [
      ("shop.Orders", .readAll, "get_all_orders"), ("shop.Orders", .readByKey, "get_orders"),
      ("shop.Orders", .insert, "add_orders"), ("shop.Orders", .update, "update_orders"),
      ("shop.Orders", .delete, "remove_orders"),
      ("shop.Orders", .readByUnique, "get_orders_by_customer_id_and_note"),
      ("Totals", .readAll, "get_all_totals")] := by
  decide +kernel

end Plan

namespace Synthesizer

variable (synthesizer : Synthesizer)

theorem length_plan (table : Table) :
    (synthesizer.plan (.table table)).length =
      2 + (if table.primaryKey.isSome then 3 else 0) + table.uniques.length := by
  rw [plan, Relation.plan, List.length_map, table.operations_eq_supported, table.length_supported]

/-- The methods of a valid relation are made as they are alone. -/
theorem synthesizeRelation_eq (relation : Relation) (valid : relation.validate = .ok ()) :
    synthesizer.synthesizeRelation relation = do
      let methods ← (synthesizer.plan relation).mapM synthesizer.synthesizeOperation
      return {
        relation := relation.fullName
        kind := relation.kind
        entity := synthesizer.naming.entity relation
        methods } := by
  have each : ∀ operation ∈ synthesizer.plan relation,
      synthesizer.synthesizeValidated operation = synthesizer.synthesizeOperation operation := by
    intro operation member
    obtain ⟨rfl, -⟩ := of_mem_plan relation member
    rw [synthesizeOperation, valid, ok_bind]
  rw [synthesizeRelation, valid, ok_bind, mapM_congr _ each]

theorem synthesizeRelation_eq_error_iff (relation : Relation) (failure : Error) :
    synthesizer.synthesizeRelation relation = .error failure ↔
      relation.validate = .error failure ∨
        relation.validate = .ok () ∧
          FailsFirst synthesizer.synthesizeOperation (synthesizer.plan relation) failure := by
  cases valid : relation.validate with
  | error fault =>
    rw [synthesizeRelation, valid, error_bind]
    simp
  | ok nothing =>
    rw [synthesizer.synthesizeRelation_eq relation valid, bind_eq_error_iff, mapM_eq_error_iff]
    simp

theorem label_of_synthesizeOperation (operation : Operation) (method : Method)
    (synthesized : synthesizer.synthesizeOperation operation = .ok method) :
    method.label = operation.label synthesizer.naming := by
  obtain ⟨-, statement, bindings, -, -, assembled⟩ :=
    synthesizer.exists_of_synthesizeOperation operation method synthesized
  obtain ⟨before, parameters, -, -, rfl⟩ :=
    Conventions.exists_eq_of_assemble _ _ _ _ _ assembled
  rfl

/-- The methods of a relation are listed as its plan lists them. -/
theorem labels_of_synthesizeRelation (relation : Relation) (entry : RelationMethods)
    (synthesized : synthesizer.synthesizeRelation relation = .ok entry) :
    entry.methods.map (·.label) =
      (synthesizer.plan relation).map (·.label synthesizer.naming) := by
  obtain ⟨⟨⟩, valid, -⟩ := (bind_eq_ok_iff _ _ _).1 synthesized
  rw [synthesizer.synthesizeRelation_eq relation valid] at synthesized
  obtain ⟨methods, made, finished⟩ := (bind_eq_ok_iff _ _ _).1 synthesized
  rw [← (pure_eq_ok_iff _ _).1 finished]
  exact map_eq_of_mapM_eq_ok _ _ _ synthesizer.label_of_synthesizeOperation _ methods made

theorem labels_of_synthesizeSchema (schema : Schema) (entries : List RelationMethods)
    (synthesized : synthesizer.synthesizeSchema schema = .ok entries) :
    (entries.flatMap fun entry => entry.methods.map (·.label)) =
      (schema.plan synthesizer.settings).map (·.label synthesizer.naming) := by
  have lists := map_eq_of_mapM_eq_ok _ _ _ synthesizer.labels_of_synthesizeRelation _ entries
    synthesized
  rw [List.flatMap_def, lists, Schema.plan, List.map_flatMap, List.flatMap_def]
  rfl

/-- Synthesis gives a method for every planned operation in the order of the plan, or it ends with
the first error. -/
theorem followsPlan (synthesizer : Synthesizer) (schema : Schema) :
    synthesizer.FollowsPlan schema where
  planned := schema.plan_eq synthesizer.settings
  counted := synthesizer.length_plan
  succeeds_iff := exists_mapM_eq_ok_iff _ _
  entries_iff := mapM_eq_ok_iff _ _
  labels := synthesizer.labels_of_synthesizeSchema schema
  fails_iff := mapM_eq_error_iff _ _
  relation_fails_iff := synthesizer.synthesizeRelation_eq_error_iff

end Synthesizer

end DataAccess

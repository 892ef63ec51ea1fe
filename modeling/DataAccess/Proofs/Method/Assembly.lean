import DataAccess.Proofs.Outcome
import DataAccess.Synthesis

/-!
What a method is made of: the statement and the bindings of its operation, put together unchanged.
A synthesis that succeeds has made both of them and found that they agree.
-/
set_option autoImplicit false

namespace DataAccess

open Sql

/-- A method with the texts of a statement and with bindings for it. -/
structure Method.Carries (method : Method) (strategy : RenderStrategy) (statement : Statement)
    (bindings : List Binding) : Prop where
  query : method.body.query = strategy.write statement
  sql : method.body.sql = statement.sql
  bindings : method.body.bindings = bindings

/-- The placeholder names that a method has bindings for. -/
def Method.boundNames (method : Method) : List String :=
  method.body.bindings.map (·.name)

namespace Conventions

variable (conventions : Conventions) (operation : Operation) (statement : Statement)
variable (bindings : List Binding) (method : Method)

/-- Steps and parameters are found first, and all else is there already. -/
theorem exists_eq_of_assemble
    (assembled : conventions.assemble operation statement bindings = .ok method) :
    ∃ before parameters, conventions.stepsBefore operation = .ok before ∧
      conventions.callerParameters operation (conventions.naming.entity operation.relation)
        (!before.isEmpty || !(operation.stepsAfter bindings).isEmpty) = .ok parameters ∧
      method = {
        name := conventions.naming.method operation.relation operation.kind operation.unique
        kind := operation.kind
        relation := operation.relation.fullName
        doc := if operation.kind = .readAll then operation.relation.description else none
        parameters
        returns := returnShape operation.kind (conventions.naming.entity operation.relation)
        body := {
          query := operation.settings.renderStrategy.write statement
          sql := statement.sql
          bindings
          contract := .around before
            (executeCall operation.kind (conventions.naming.entity operation.relation))
            (operation.stepsAfter bindings) } } := by
  obtain ⟨before, prepared, later⟩ := (bind_eq_ok_iff _ _ _).1 assembled
  obtain ⟨parameters, passed, made⟩ := (bind_eq_ok_iff _ _ _).1 later
  exact ⟨before, parameters, prepared, passed, ((pure_eq_ok_iff _ _).1 made).symm⟩

theorem carries_of_assemble
    (assembled : conventions.assemble operation statement bindings = .ok method) :
    method.Carries operation.settings.renderStrategy statement bindings := by
  obtain ⟨before, parameters, -, -, rfl⟩ := exists_eq_of_assemble _ _ _ _ _ assembled
  exact ⟨rfl, rfl, rfl⟩

theorem name_of_assemble
    (assembled : conventions.assemble operation statement bindings = .ok method) :
    method.name =
      conventions.naming.method operation.relation operation.kind operation.unique := by
  obtain ⟨before, parameters, -, -, rfl⟩ := exists_eq_of_assemble _ _ _ _ _ assembled
  rfl

/-- Kind, steps and parameters of a method are those of its operation. -/
theorem exists_of_assemble
    (assembled : conventions.assemble operation statement bindings = .ok method) :
    method.kind = operation.kind ∧
    ∃ before, conventions.stepsBefore operation = .ok before ∧
      method.body.contract = .around before
        (executeCall operation.kind (conventions.naming.entity operation.relation))
        (operation.stepsAfter bindings) ∧
      conventions.callerParameters operation (conventions.naming.entity operation.relation)
        (!before.isEmpty || !(operation.stepsAfter bindings).isEmpty) = .ok method.parameters := by
  obtain ⟨before, parameters, prepared, passed, rfl⟩ := exists_eq_of_assemble _ _ _ _ _ assembled
  exact ⟨rfl, before, prepared, rfl, passed⟩

end Conventions

namespace Synthesizer

variable (synthesizer : Synthesizer)

theorem verify_eq_ok_iff (method : Method) :
    synthesizer.verify method = .ok () ↔
      placeholders method.body.query.normalized synthesizer.dialect.sigil = method.boundNames := by
  rw [verify, Method.boundNames]
  split <;> simp_all

theorem synthesizeValidated_eq_ok_iff (operation : Operation) (method : Method) :
    synthesizer.synthesizeValidated operation = .ok method ↔
      ∃ statement bindings, synthesizer.conventions.render operation = .ok statement ∧
        synthesizer.conventions.bind operation = .ok bindings ∧
        synthesizer.conventions.assemble operation statement bindings = .ok method ∧
        synthesizer.verify method = .ok () := by
  simp only [synthesizeValidated, bind_eq_ok_iff, pure_eq_ok_iff]
  constructor
  · rintro ⟨statement, rendered, bindings, bound, made, assembled, ⟨⟩, verified, rfl⟩
    exact ⟨statement, bindings, rendered, bound, assembled, verified⟩
  · rintro ⟨statement, bindings, rendered, bound, assembled, verified⟩
    exact ⟨statement, rendered, bindings, bound, method, assembled, (), verified, rfl⟩

/-- A method that is given out carries a statement that was rendered for its operation. -/
theorem exists_of_synthesizeValidated (operation : Operation) (method : Method)
    (synthesized : synthesizer.synthesizeValidated operation = .ok method) :
    ∃ statement bindings, synthesizer.conventions.render operation = .ok statement ∧
      synthesizer.conventions.bind operation = .ok bindings ∧
      method.Carries operation.settings.renderStrategy statement bindings ∧
      placeholders method.body.query.normalized synthesizer.dialect.sigil =
        method.boundNames := by
  obtain ⟨statement, bindings, rendered, bound, assembled, verified⟩ :=
    (synthesizer.synthesizeValidated_eq_ok_iff operation method).1 synthesized
  exact ⟨statement, bindings, rendered, bound,
    synthesizer.conventions.carries_of_assemble operation statement bindings method assembled,
    (synthesizer.verify_eq_ok_iff method).1 verified⟩

theorem synthesizeOperation_eq_ok_iff (operation : Operation) (method : Method) :
    synthesizer.synthesizeOperation operation = .ok method ↔
      operation.relation.validate = .ok () ∧
        synthesizer.synthesizeValidated operation = .ok method := by
  rw [synthesizeOperation, bind_eq_ok_iff]
  constructor
  · rintro ⟨⟨⟩, valid, validated⟩
    exact ⟨valid, validated⟩
  · rintro ⟨valid, validated⟩
    exact ⟨(), valid, validated⟩

/-- The stages that an operation has passed when its method is given out. -/
theorem exists_of_synthesizeOperation (operation : Operation) (method : Method)
    (synthesized : synthesizer.synthesizeOperation operation = .ok method) :
    operation.relation.validate = .ok () ∧
      ∃ statement bindings, synthesizer.conventions.render operation = .ok statement ∧
        synthesizer.conventions.bind operation = .ok bindings ∧
        synthesizer.conventions.assemble operation statement bindings = .ok method := by
  obtain ⟨valid, validated⟩ :=
    (synthesizer.synthesizeOperation_eq_ok_iff operation method).1 synthesized
  obtain ⟨statement, bindings, rendered, bound, assembled, -⟩ :=
    (synthesizer.synthesizeValidated_eq_ok_iff operation method).1 validated
  exact ⟨valid, statement, bindings, rendered, bound, assembled⟩

end Synthesizer

end DataAccess

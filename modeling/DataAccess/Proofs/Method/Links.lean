import DataAccess.Proofs.Method.Containment
import DataAccess.Proofs.Method.Values

/-!
What a synthesized method is made of, by the shape of its operation: its statement, what its
bindings link together, its caller parameters, and the steps around the statement.
-/
set_option autoImplicit false

namespace DataAccess

open Sql

/-- A placeholder and where its value comes from or goes to. -/
structure Link where
  name : String
  source : ValueSource
  direction : Direction
deriving DecidableEq

/-- A binding without its type. -/
def Binding.link (binding : Binding) : Link :=
  ⟨binding.name, binding.source, binding.direction⟩

namespace Conventions

variable (conventions : Conventions)

def columnLink (direction : Direction) (column : Column) : Link :=
  ⟨conventions.naming.columnMarker column.name,
    .entity (conventions.naming.property column.name), direction⟩

def filterLink (filter : Filter) : Link :=
  ⟨filter.marker, .argument filter.argument, .input⟩

def parameterLink (parameter : Parameter) : Link :=
  ⟨parameter.name, .argument (conventions.naming.argument parameter.name), .input⟩

def pagingLinks : List Link :=
  [pageSizeName, pageNumberName].map fun name =>
    ⟨conventions.naming.scalarMarker name, .argument (conventions.naming.argument name), .input⟩

/-- What the bindings of a shape link together. -/
def links : Shape → List Link
  | .rows filters order =>
    filters.map filterLink ++ if order.isSome then conventions.pagingLinks else []
  | .whole => []
  | .call parameters => parameters.map conventions.parameterLink
  | .lookup key | .delete key => key.map (conventions.columnLink .input)
  | .insert columns identity =>
    columns.map (conventions.columnLink .input) ++
      identity.toList.map (conventions.columnLink .output)
  | .update written key =>
    written.map (conventions.columnLink .input) ++ key.map (conventions.columnLink .input)

/-- The names of what a caller passes for a shape. -/
def callerNames : Shape → List String
  | .rows filters order =>
    (if order.isSome then [pageSizeName, pageNumberName].map conventions.naming.argument else []) ++
      filters.map (·.argument)
  | .whole => []
  | .call parameters => parameters.map fun parameter => conventions.naming.argument parameter.name
  | .lookup _ | .insert .. | .update .. | .delete _ => [entityArgument]

section Links

variable {conventions} {relation : Relation}

theorem BindsColumn.link {direction : Direction} {column : Column} {binding : Binding}
    (binds : conventions.BindsColumn relation direction column binding) :
    binding.link = conventions.columnLink direction column := by
  rw [Binding.link, binds.name, binds.source, binds.direction]
  rfl

theorem links_of_bindsColumn {direction : Direction} {columns : List Column}
    {bindings : List Binding}
    (binds : List.Forall₂ (conventions.BindsColumn relation direction) columns bindings) :
    bindings.map (·.link) = columns.map (conventions.columnLink direction) :=
  map_eq_of_forall₂ _ _ (fun _ _ bound => bound.link) binds

theorem links_of_narrows {filters : List Filter} {scalars : List Scalar}
    (narrow : List.Forall₂ conventions.Narrows filters scalars) :
    (scalars.map (·.binding)).map (·.link) = filters.map filterLink := by
  rw [List.map_map]
  refine map_eq_of_forall₂ _ _ (fun filter scalar fit => ?_) narrow
  simp only [Function.comp, Scalar.binding, Binding.link, filterLink, fit.marker, fit.argument]

theorem links_of_supplies {parameters : List Parameter} {scalars : List Scalar}
    (supply : List.Forall₂ conventions.Supplies parameters scalars) :
    (scalars.map (·.binding)).map (·.link) = parameters.map conventions.parameterLink := by
  rw [List.map_map]
  refine map_eq_of_forall₂ _ _ (fun parameter scalar fit => ?_) supply
  simp only [Function.comp, Scalar.binding, Binding.link, parameterLink, fit.marker, fit.argument]

theorem Fills.links {shape : Shape} {bindings : List Binding}
    (filled : conventions.Fills relation shape bindings) :
    bindings.map (·.link) = conventions.links shape := by
  cases filled with
  | whole => rfl
  | rows order narrow =>
    rw [List.map_append, links_of_narrows narrow]
    cases order <;> rfl
  | call supply => exact links_of_supplies supply
  | lookup located | delete located => exact links_of_bindsColumn located
  | insert written generated =>
    rw [List.map_append, links_of_bindsColumn written, links_of_bindsColumn generated]
    rfl
  | update writes locates =>
    rw [List.map_append, links_of_bindsColumn writes, links_of_bindsColumn locates]
    rfl

theorem Takes.names {row : CallerParameter} {shape : Shape} {parameters : List CallerParameter}
    (taken : conventions.Takes row shape parameters) (isRow : row.name = entityArgument) :
    parameters.map (·.name) = conventions.callerNames shape := by
  cases taken with
  | whole => rfl
  | rows order narrow =>
    have filtered := map_eq_of_forall₂ (fun scalar => (scalar.parameter true (some .null)).name)
      _ (fun _ _ fit => fit.argument) narrow
    rw [List.map_append, List.map_map, callerNames, ← filtered]
    cases order <;> rfl
  | call supply =>
    rw [List.map_map]
    exact map_eq_of_forall₂ _ _ (fun _ _ fit => fit.argument) supply
  | lookup | insert | update | delete => exact congrArg ([·]) isRow

end Links

/-- The bindings of a grounded operation link what its shape says. -/
theorem links_of_bind (operation : Operation) (grounded : operation.IsGrounded)
    (bindings : List Binding) (bound : conventions.bind operation = .ok bindings) :
    bindings.map (·.link) = conventions.links (conventions.shape operation) :=
  (conventions.fills_of_bind operation grounded bindings bound).links

/-- The caller of a grounded operation passes what its shape says. -/
theorem names_of_callerParameters (operation : Operation) (grounded : operation.IsGrounded)
    (entity : String) (mutable : Bool) (parameters : List CallerParameter)
    (passed : conventions.callerParameters operation entity mutable = .ok parameters) :
    parameters.map (·.name) = conventions.callerNames (conventions.shape operation) :=
  (conventions.takes_of_callerParameters operation grounded entity mutable parameters
    passed).names rfl

end Conventions

namespace Synthesizer

variable (synthesizer : Synthesizer)

/-- All that is known of a method that was synthesized for an operation, before it is asked
whether its placeholders agree. -/
structure Makes (operation : Operation) (method : Method) : Prop where
  grounded : operation.IsGrounded
  kind : method.kind = operation.kind
  carries : method.Carries operation.settings.renderStrategy
    (synthesizer.conventions.statement operation.relation
      (synthesizer.conventions.shape operation)) method.body.bindings
  links : method.body.bindings.map (·.link) =
    synthesizer.conventions.links (synthesizer.conventions.shape operation)
  callerNames : method.parameters.map (·.name) =
    synthesizer.conventions.callerNames (synthesizer.conventions.shape operation)
  contract : ∃ before, synthesizer.conventions.stepsBefore operation = .ok before ∧
    method.body.contract = .around before
      (executeCall operation.kind (synthesizer.conventions.naming.entity operation.relation))
      (operation.stepsAfter method.body.bindings)

variable {synthesizer}

theorem makes_of_synthesizeValidated (operation : Operation) (method : Method)
    (valid : operation.relation.validate = .ok ())
    (synthesized : synthesizer.synthesizeValidated operation = .ok method) :
    synthesizer.Makes operation method := by
  obtain ⟨statement, bindings, rendered, bound, assembled, -⟩ :=
    (synthesizer.synthesizeValidated_eq_ok_iff operation method).1 synthesized
  have grounded := Conventions.isGrounded_of_render _ operation statement valid rendered
  have carries := Conventions.carries_of_assemble _ operation statement bindings method assembled
  obtain ⟨kind, before, prepared, contract, passed⟩ :=
    Conventions.exists_of_assemble _ operation statement bindings method assembled
  obtain rfl := carries.bindings
  rw [Conventions.render_eq _ operation grounded] at rendered
  obtain rfl := Except.ok.inj rendered
  exact {
    grounded
    kind
    carries
    links := Conventions.links_of_bind _ operation grounded _ bound
    callerNames := Conventions.names_of_callerParameters _ operation grounded _ _ _ passed
    contract := ⟨before, prepared, contract⟩ }

theorem Gives.validate {relation : Relation} {method : Method}
    (given : synthesizer.Gives relation method) : relation.validate = .ok () := by
  rcases given with ⟨whole, success, -⟩ | ⟨operation, rfl, success⟩
  · obtain ⟨⟨⟩, valid, -⟩ := (bind_eq_ok_iff _ _ _).1 success
    exact valid
  · exact ((synthesizer.synthesizeOperation_eq_ok_iff operation method).1 success).1

/-- A method that is given out for a relation is made for one of its operations. -/
theorem Gives.exists_makes {relation : Relation} {method : Method}
    (given : synthesizer.Gives relation method) :
    ∃ operation, operation.relation = relation ∧ synthesizer.Makes operation method := by
  have valid := given.validate
  obtain ⟨operation, rfl, validated⟩ := given.exists_validated
  exact ⟨operation, rfl, makes_of_synthesizeValidated operation method valid validated⟩

end Synthesizer

end DataAccess

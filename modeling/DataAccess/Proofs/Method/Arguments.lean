import DataAccess.Proofs.Method.Bindings
import DataAccess.Proofs.Method.Values

/-!
What a caller passes and what a statement is given. Parameters and bindings are made apart and in
different orders: the page comes first among the parameters and last among the bindings. Both are
the two sides of one request.
-/
set_option autoImplicit false

namespace DataAccess

/-- The scalars of a method that reads all rows. -/
structure Request where
  /-- The scalars of a page, with their defaults. -/
  page : List (Scalar × Int) := []
  filters : List Scalar := []
  declared : List Scalar := []
deriving DecidableEq

namespace Request

variable (request : Request)

/-- What a statement is given, with the page at the end. -/
def bindings : List Binding :=
  (request.declared ++ request.filters ++ request.page.map (·.1)).map (·.binding)

/-- What the caller passes, with the page at the beginning. -/
def parameters : List CallerParameter :=
  request.page.map (fun (scalar, default) => scalar.parameter false (some (.int default))) ++
    request.filters.map (·.parameter true (some .null)) ++
    request.declared.map (·.parameter false none)

end Request

/-- The scalars of a page, each with the value that is used when the caller passes none. -/
def Conventions.page (conventions : Conventions) : List (Scalar × Int) :=
  [(pageSizeName, defaultPageSize), (pageNumberName, defaultPageNumber)].map fun (name, default) =>
    (⟨conventions.naming.scalarMarker name, conventions.naming.argument name, pagingType⟩, default)

/-- The request of an operation that reads all rows: the page and the filters of a table, the
declared parameters of a function, and nothing for a view. -/
inductive Conventions.Requests (conventions : Conventions) (operation : Operation) :
    Request → Prop where
  | table {table : Table} {filters : List Filter} {scalars : List Scalar}
    (onTable : operation.relation = .table table)
    (found : conventions.filters table operation.settings.paging = .ok filters)
    (narrow : List.Forall₂ conventions.Narrows filters scalars) :
    conventions.Requests operation
      { page := if operation.settings.paging then conventions.page else [], filters := scalars }
  | view {view : View} (onView : operation.relation = .view view) :
    conventions.Requests operation {}
  | function {function : TableFunction} {scalars : List Scalar}
    (onFunction : operation.relation = .function function)
    (supply : List.Forall₂ conventions.Supplies function.parameters scalars) :
    conventions.Requests operation { declared := scalars }

/-- An argument that a binding takes its value from, with the type that it is passed as. -/
def Binding.argument? (binding : Binding) : Option (String × String) :=
  match binding.source with
  | .argument name => some (name, binding.type.target)
  | .entity _ => none

/-- An argument that a caller passes, with its type. -/
def CallerParameter.argument? (parameter : CallerParameter) : Option (String × String) :=
  match parameter.type with
  | .scalar target _ => some (parameter.name, target)
  | .entity .. => none

/-- A method whose caller passes all that its statement is given, and nothing else. -/
structure Synthesizer.Covers (synthesizer : Synthesizer) (operation : Operation)
    (method : Method) : Prop where
  kind : method.kind = operation.kind
  request : operation.kind = .readAll → ∃ request,
    synthesizer.conventions.Requests operation request ∧
      method.body.bindings = request.bindings ∧ method.parameters = request.parameters
  arguments : operation.kind = .readAll →
    (∀ binding ∈ method.body.bindings, ∃ name, binding.source = .argument name) ∧
      (method.body.bindings.map (·.argument?)).Perm (method.parameters.map (·.argument?))
  row : operation.kind ≠ .readAll →
    (∃ mutable, method.parameters =
      [⟨entityArgument, .entity (synthesizer.naming.entity operation.relation) mutable, none⟩]) ∧
      ∀ binding ∈ method.body.bindings, binding.IsOfRow

namespace Request

variable (request : Request)

theorem exists_argument_of_mem_bindings (binding : Binding)
    (member : binding ∈ request.bindings) : ∃ name, binding.source = .argument name := by
  obtain ⟨scalar, -, rfl⟩ := List.mem_map.1 member
  exact ⟨scalar.argument, rfl⟩

/-- The same arguments stand on both sides, in another order. -/
theorem perm_arguments :
    (request.bindings.map (·.argument?)).Perm (request.parameters.map (·.argument?)) := by
  let argument : Scalar → Option (String × String) := fun scalar =>
    some (scalar.argument, scalar.type.target)
  have given : request.bindings.map (·.argument?) =
      (request.declared ++ request.filters ++ request.page.map (·.1)).map argument := by
    rw [bindings, List.map_map]
    rfl
  have passed : request.parameters.map (·.argument?) =
      (request.page.map (·.1) ++ request.filters ++ request.declared).map argument := by
    simp only [parameters, List.map_append, List.map_map]
    rfl
  rw [given, passed]
  refine List.Perm.map argument ?_
  calc (request.declared ++ request.filters ++ request.page.map (·.1)).Perm
        (request.page.map (·.1) ++ (request.declared ++ request.filters)) :=
      List.perm_append_comm
    List.Perm _ (request.page.map (·.1) ++ (request.filters ++ request.declared)) :=
      List.perm_append_comm.append_left _
    _ = request.page.map (·.1) ++ request.filters ++ request.declared :=
      (List.append_assoc _ _ _).symm

end Request

namespace Conventions

variable {conventions : Conventions}

/-- The type of a scalar is the only one that is found for its filter. -/
theorem rightUnique_narrows : Relator.RightUnique conventions.Narrows := by
  rintro filter ⟨marker, argument, type⟩ ⟨_, _, _⟩ ⟨rfl, rfl, found⟩ ⟨rfl, rfl, again⟩
  cases found.symm.trans again
  rfl

theorem rightUnique_supplies : Relator.RightUnique conventions.Supplies := by
  rintro parameter ⟨marker, argument, type⟩ ⟨_, _, _⟩ ⟨rfl, rfl, found⟩ ⟨rfl, rfl, again⟩
  cases found.symm.trans again
  rfl

theorem pagingBindings_eq :
    conventions.pagingBindings = (conventions.page.map (·.1)).map (·.binding) := rfl

theorem pagingParameters_eq :
    conventions.pagingParameters = conventions.page.map fun (scalar, default) =>
      scalar.parameter false (some (.int default)) := rfl

/-- Both sides of a method that reads all rows are those of one request. -/
theorem exists_request (operation : Operation) (kind : operation.kind = .readAll)
    (bindings : List Binding) (parameters : List CallerParameter)
    (bound : conventions.bind operation = .ok bindings)
    (passed : conventions.readAllParameters operation = .ok parameters) :
    ∃ request, conventions.Requests operation request ∧
      bindings = request.bindings ∧ parameters = request.parameters := by
  cases onRelation : operation.relation with
  | table table =>
    obtain ⟨filters, scalars, found, rfl, narrow⟩ :=
      conventions.exists_filters_of_bind operation table onRelation kind bindings bound
    obtain ⟨others, same, foundAgain, rfl, narrowAgain⟩ :=
      conventions.exists_filters_of_readAllParameters operation table onRelation parameters passed
    -- Each side has found the filters and their types for itself.
    obtain rfl : filters = others := Except.ok.inj (found.symm.trans foundAgain)
    obtain rfl : scalars = same :=
      List.right_unique_forall₂' rightUnique_narrows narrow narrowAgain
    refine ⟨_, .table onRelation found narrow, ?_, ?_⟩
    · rw [Request.bindings, pagingBindings_eq]
      cases operation.settings.paging <;> simp
    · rw [Request.parameters, pagingParameters_eq]
      cases operation.settings.paging <;> simp
  | view view =>
    simp only [bind, kind, bindReadAll, onRelation, Except.ok.injEq] at bound
    simp only [readAllParameters, onRelation, Except.ok.injEq] at passed
    exact ⟨{}, .view onRelation, bound.symm, passed.symm⟩
  | function function =>
    simp only [bind, kind, bindReadAll, onRelation, mapM_parameterBinding_eq_ok_iff] at bound
    simp only [readAllParameters, onRelation, mapM_functionParameter_eq_ok_iff] at passed
    obtain ⟨scalars, supply, rfl⟩ := bound
    obtain ⟨same, supplyAgain, rfl⟩ := passed
    obtain rfl : scalars = same :=
      List.right_unique_forall₂' rightUnique_supplies supply supplyAgain
    refine ⟨_, .function onRelation supply, ?_, ?_⟩
    · simp [Request.bindings]
    · simp [Request.parameters]

theorem isOfRow_shape (operation : Operation) (grounded : operation.IsGrounded)
    (notReadAll : operation.kind ≠ .readAll) :
    (conventions.shape operation).isOfRow = true := by
  obtain ⟨table, onTable⟩ := grounded.exists_table notReadAll
  rw [shape, onTable]
  cases kind : operation.kind with
  | readAll => exact absurd kind notReadAll
  | readByKey | readByUnique | insert | update | delete => rfl

theorem isOfRow_of_forall₂ {relation : Relation} {direction : Direction} {columns : List Column}
    {bindings : List Binding}
    (binds : List.Forall₂ (conventions.BindsColumn relation direction) columns bindings) :
    ∀ binding ∈ bindings, binding.IsOfRow := by
  intro binding member
  obtain ⟨column, -, bound⟩ := exists_of_mem_forall₂ binds binding member
  exact ⟨_, bound.source⟩

/-- A statement on a row takes nothing but attributes. -/
theorem Fills.isOfRow {relation : Relation} {shape : Shape} {bindings : List Binding}
    (filled : conventions.Fills relation shape bindings) (ofRow : shape.isOfRow = true) :
    ∀ binding ∈ bindings, binding.IsOfRow := by
  cases filled with
  | rows | whole | call => cases ofRow
  | lookup located | delete located => exact isOfRow_of_forall₂ located
  | insert written generated =>
    exact List.forall_mem_append.2 ⟨isOfRow_of_forall₂ written, isOfRow_of_forall₂ generated⟩
  | update writes locates =>
    exact List.forall_mem_append.2 ⟨isOfRow_of_forall₂ writes, isOfRow_of_forall₂ locates⟩

end Conventions

namespace Synthesizer

/-- What a caller passes is what the statement is given: scalars to read all rows, and otherwise
the row. -/
theorem covers_of_synthesizeOperation (synthesizer : Synthesizer) (operation : Operation)
    (method : Method) (synthesized : synthesizer.synthesizeOperation operation = .ok method) :
    synthesizer.Covers operation method := by
  obtain ⟨valid, statement, bindings, rendered, bound, assembled⟩ :=
    synthesizer.exists_of_synthesizeOperation operation method synthesized
  obtain ⟨before, parameters, -, passed, rfl⟩ :=
    Conventions.exists_eq_of_assemble _ _ _ _ _ assembled
  have requested : operation.kind = .readAll → ∃ request,
      synthesizer.conventions.Requests operation request ∧
        bindings = request.bindings ∧ parameters = request.parameters := by
    intro kind
    rw [Conventions.callerParameters, kind] at passed
    exact Conventions.exists_request operation kind bindings parameters bound passed
  refine ⟨rfl, requested, ?_, ?_⟩
  · intro kind
    obtain ⟨request, -, rfl, rfl⟩ := requested kind
    exact ⟨request.exists_argument_of_mem_bindings, request.perm_arguments⟩
  · intro notReadAll
    have grounded := Conventions.isGrounded_of_render _ operation statement valid rendered
    have filled := Conventions.fills_of_bind _ operation grounded bindings bound
    refine ⟨?_, filled.isOfRow (Conventions.isOfRow_shape operation grounded notReadAll)⟩
    unfold Conventions.callerParameters at passed
    split at passed
    · contradiction
    · exact ⟨_, (Except.ok.inj passed).symm⟩

/-- A table with a foreign key that is called like a scalar of a page. -/
def printings : Table where
  name := "Printings"
  columns := [
    { name := "Id", declaredType := "int" },
    { name := "PageSize", declaredType := "char(2)", nullable := true }]
  foreignKeys := [{ columns := ["PageSize"], target := "PageSizes" }]

/-- A page of all rows. -/
def pageOfPrintings : Operation where
  kind := .readAll
  relation := .table printings
  settings := { paging := true }

/-- The filter has a name of its own, which is the same on both sides. -/
theorem covers_of_synthesizeOperation_printings :
    ∃ method, ({} : Synthesizer).synthesizeOperation pageOfPrintings = .ok method ∧
      ({} : Synthesizer).Covers pageOfPrintings method ∧
      method.body.bindings.map (·.argument?) =
        [("pageSizeFilter", "String"), ("pageSize", "i32"), ("pageNumber", "i32")] ∧
      method.parameters.map (·.argument?) =
        [("pageSize", "i32"), ("pageNumber", "i32"), ("pageSizeFilter", "String")] := by
  obtain ⟨method, synthesized, arguments⟩ := exists_eq_ok_of_any
    (({} : Synthesizer).synthesizeOperation pageOfPrintings)
    (fun method =>
      method.body.bindings.map (·.argument?) ==
        [some ("pageSizeFilter", "String"), some ("pageSize", "i32"), some ("pageNumber", "i32")] &&
      method.parameters.map (·.argument?) ==
        [some ("pageSize", "i32"), some ("pageNumber", "i32"), some ("pageSizeFilter", "String")])
    (by decide +kernel)
  simp only [Bool.and_eq_true, beq_iff_eq] at arguments
  exact ⟨method, synthesized, covers_of_synthesizeOperation {} _ method synthesized, arguments⟩

end Synthesizer

end DataAccess

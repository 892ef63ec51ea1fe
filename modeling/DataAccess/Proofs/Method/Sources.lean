import Mathlib.Data.List.Nodup
import DataAccess.Proofs.Method.Links
import DataAccess.Proofs.Method.Success

/-!
Where the values of placeholders come from. Filters are kept apart from each other and from the
paging scalars. Nothing keeps the attributes of a row or the arguments of a function apart: they
differ as far as the naming makes different names of different names.
-/
set_option autoImplicit false

namespace DataAccess

open Sql

/-- A method whose parameters differ, and that takes no value for two placeholders. -/
structure Method.SourcesDiffer (method : Method) : Prop where
  parameters : (method.parameters.map (·.name)).Nodup
  sources : (method.body.bindings.map (·.source)).Nodup

namespace Conventions

variable (conventions : Conventions)

/-- A shape whose methods take no value for two placeholders. -/
structure SourcesDiffer (shape : Shape) : Prop where
  parameters : (conventions.callerNames shape).Nodup
  sources : ((conventions.links shape).map (·.source)).Nodup

/-- Columns with different attributes in a row. -/
def AttributesDiffer (columns : List Column) : Prop :=
  (columns.map fun column => conventions.naming.property column.name).Nodup

instance (columns : List Column) : Decidable (conventions.AttributesDiffer columns) :=
  inferInstanceAs (Decidable (List.Nodup _))

section Shapes

/-- A statement on a row takes the attributes of its columns; an output has an attribute too. -/
theorem sourcesDiffer_row_iff (shape : Shape) (ofRow : shape.isOfRow = true) :
    conventions.SourcesDiffer shape ↔ conventions.AttributesDiffer shape.columns := by
  have entity : conventions.callerNames shape = [entityArgument] := by
    cases shape with
    | lookup key | insert columns identity | update written key | delete key => rfl
    | rows filters order | whole | call parameters => cases ofRow
  have sources : (conventions.links shape).map (·.source) =
      (shape.columns.map fun column => conventions.naming.property column.name).map .entity := by
    cases shape with
    | lookup key | insert columns identity | update written key | delete key =>
      simp [links, Shape.columns, columnLink, Function.comp_def]
    | rows filters order | whole | call parameters => cases ofRow
  have apart : ((conventions.links shape).map (·.source)).Nodup ↔
      conventions.AttributesDiffer shape.columns := by
    rw [sources, List.nodup_map_iff fun _ _ => ValueSource.entity.inj, AttributesDiffer]
  constructor
  · intro differ
    exact apart.1 differ.sources
  · intro differ
    refine ⟨?_, apart.2 differ⟩
    rw [entity]
    exact List.nodup_singleton entityArgument

theorem sourcesDiffer_call_iff (parameters : List Parameter) :
    conventions.SourcesDiffer (.call parameters) ↔
      (parameters.map fun parameter => conventions.naming.argument parameter.name).Nodup := by
  have sources : (conventions.links (.call parameters)).map (·.source) =
      (conventions.callerNames (.call parameters)).map .argument := by
    simp [links, callerNames, parameterLink, Function.comp_def]
  constructor
  · intro differ
    exact differ.parameters
  · intro distinct
    refine ⟨distinct, ?_⟩
    rw [sources]
    exact (List.nodup_map_iff fun _ _ => ValueSource.argument.inj).2 distinct

theorem sourcesDiffer_whole : conventions.SourcesDiffer .whole :=
  ⟨List.nodup_nil, List.nodup_nil⟩

/-- Filters are kept apart from the paging scalars, which the naming has to keep apart. -/
theorem sourcesDiffer_rows (columns : List Column) (order : Option Column) (paging : Bool)
    (paged : order.isSome = true → paging = true)
    (apart : conventions.naming.argument pageSizeName ≠
      conventions.naming.argument pageNumberName) :
    conventions.SourcesDiffer
      (.rows (conventions.naming.filtersOn (conventions.naming.pagingNames paging) columns)
        order) := by
  let filters := conventions.naming.filtersOn (conventions.naming.pagingNames paging) columns
  let scalars := if order.isSome then
    [pageSizeName, pageNumberName].map conventions.naming.argument else []
  have fresh : ∀ scalar ∈ scalars, scalar ∉ filters.map (·.argument) := by
    intro scalar member
    cases isPaged : order.isSome with
    | false => simp [scalars, isPaged] at member
    | true =>
      have taken : scalar ∈ conventions.naming.pagingNames paging := by
        simp only [scalars, isPaged, ↓reduceIte, List.mem_map] at member
        obtain ⟨name, among, rfl⟩ := member
        rw [paged isPaged]
        exact List.mem_flatMap.2 ⟨name, among, by simp⟩
      intro inside
      obtain ⟨filter, among, rfl⟩ := List.mem_map.1 inside
      exact (conventions.naming.filtersOn_fresh _ columns filter among).2 taken
  -- The caller passes the scalars first, and the statement mentions them last.
  have names : (scalars ++ filters.map (·.argument)).Nodup := by
    refine List.nodup_append.2 ⟨?_, conventions.naming.nodup_arguments _ columns, ?_⟩
    · cases isPaged : order.isSome <;> simp [scalars, isPaged, apart]
    · intro scalar member argument among same
      exact fresh scalar member (same ▸ among)
  have sources : (conventions.links (.rows filters order)).map (·.source) =
      (filters.map (·.argument) ++ scalars).map .argument := by
    cases isPaged : order.isSome <;>
      simp [links, pagingLinks, scalars, isPaged, filterLink, Function.comp_def]
  refine ⟨names, ?_⟩
  rw [sources, List.nodup_map_iff fun _ _ => ValueSource.argument.inj]
  exact List.nodup_append_comm.1 names

end Shapes

end Conventions

/-- What the columns of a table must be like for each of its methods to keep its values apart. -/
structure Conventions.SeparatesColumns (conventions : Conventions) (table : Table) : Prop where
  inserted : conventions.AttributesDiffer
    (table.inserted conventions.insertExclusions ++ table.identityColumn?.toList)
  keyed : table.primaryKey.isSome = true → conventions.AttributesDiffer
    (table.updated conventions.updateExclusions ++ table.columnsNamed table.keyNames)
  uniques : ∀ unique ∈ table.uniques,
    conventions.AttributesDiffer (table.columnsNamed unique.columns)

/-- What a relation must be like for each of its methods to keep its values apart. -/
def Conventions.Separates (conventions : Conventions) : Relation → Prop
  | .table table => conventions.SeparatesColumns table
  | .view _ => True
  | .function function =>
    (function.parameters.map fun parameter => conventions.naming.argument parameter.name).Nodup

theorem forall_sourcesDiffer_table_iff (conventions : Conventions) (table : Table)
    (settings : GenerationSettings)
    (apart : conventions.naming.argument pageSizeName ≠
      conventions.naming.argument pageNumberName) :
    (∀ operation ∈ (Relation.table table).plan settings,
      conventions.SourcesDiffer (conventions.shape operation)) ↔
      conventions.SeparatesColumns table := by
  have rows : conventions.SourcesDiffer
      (conventions.shape (table.operation settings .readAll none)) := by
    apply conventions.sourcesDiffer_rows _ _ settings.paging ?_ apart
    intro ordered
    by_contra unpaged
    simp [Table.operation, unpaged] at ordered
  have row : ∀ kind unique, kind ≠ .readAll →
      (conventions.SourcesDiffer (conventions.shape (table.operation settings kind unique)) ↔
        conventions.AttributesDiffer
          (conventions.shape (table.operation settings kind unique)).columns) := by
    intro kind unique notReadAll
    apply conventions.sourcesDiffer_row_iff
    cases kind with
    | readAll => exact absurd rfl notReadAll
    | readByKey | readByUnique | insert | update | delete => rfl
  rw [forall_mem_plan_iff]
  constructor
  · rintro ⟨-, inserted, keyed, uniques⟩
    refine ⟨?_, ?_, ?_⟩
    · exact (row _ _ (by decide)).1 inserted
    · exact fun isKeyed => (row _ _ (by decide)).1 (keyed isKeyed).2.1
    · exact fun unique member => (row _ _ (by decide)).1 (uniques unique member)
  · intro separates
    refine ⟨rows, (row _ _ (by decide)).2 separates.inserted, ?_, ?_⟩
    · intro isKeyed
      -- Lookups and deletions go by the key alone, which is a part of what an update mentions.
      have both := separates.keyed isKeyed
      have key : conventions.AttributesDiffer (table.columnsNamed table.keyNames) := by
        unfold Conventions.AttributesDiffer at both ⊢
        rw [List.map_append] at both
        exact both.of_append_right
      exact ⟨(row _ _ (by decide)).2 key, (row _ _ (by decide)).2 both,
        (row _ _ (by decide)).2 key⟩
    · exact fun unique member => (row _ _ (by decide)).2 (separates.uniques unique member)

namespace Synthesizer

theorem Makes.sourcesDiffer_iff {synthesizer : Synthesizer} {operation : Operation}
    {method : Method} (makes : synthesizer.Makes operation method) :
    method.SourcesDiffer ↔
      synthesizer.conventions.SourcesDiffer (synthesizer.conventions.shape operation) := by
  have sources : method.body.bindings.map (·.source) =
      (synthesizer.conventions.links (synthesizer.conventions.shape operation)).map (·.source) := by
    rw [← makes.links, List.map_map]
    rfl
  constructor
  · intro differ
    constructor
    · rw [← makes.callerNames]
      exact differ.parameters
    · rw [← sources]
      exact differ.sources
  · intro differ
    constructor
    · rw [makes.callerNames]
      exact differ.parameters
    · rw [sources]
      exact differ.sources

/-- The methods of a relation keep their values apart exactly if the naming tells the columns of
each statement on rows, or the parameters of a function, apart. -/
theorem forall_sourcesDiffer_iff (settings : Settings) (known : KnownDialect)
    (types : TypeResolver) (relation : Relation) (whole : RelationMethods)
    (synthesized :
      (standard settings known types).synthesizeRelation relation = .ok whole) :
    (∀ method ∈ whole.methods, method.SourcesDiffer) ↔
      (Conventions.standard settings known types).Separates relation := by
  let conventions := Conventions.standard settings known types
  have apart : conventions.naming.argument pageSizeName ≠
      conventions.naming.argument pageNumberName := by
    show Casing.camel pageSizeName ≠ Casing.camel pageNumberName
    rw [camel_pageSizeName, camel_pageNumberName]
    decide
  obtain ⟨⟨⟩, valid, later⟩ := (bind_eq_ok_iff _ _ _).1 synthesized
  obtain ⟨methods, made, finished⟩ := (bind_eq_ok_iff _ _ _).1 later
  have each : ∀ operation ∈ (standard settings known types).plan relation, ∀ method,
      (standard settings known types).synthesizeValidated operation = .ok method →
        (method.SourcesDiffer ↔ conventions.SourcesDiffer (conventions.shape operation)) := by
    intro operation planned method single
    obtain ⟨rfl, -⟩ := of_mem_plan relation planned
    exact (makes_of_synthesizeValidated operation method valid single).sourcesDiffer_iff
  rw [← (pure_eq_ok_iff _ _).1 finished, forall_mem_iff_of_mapM_eq_ok _ _ _ _ methods made each]
  cases relation with
  | table table => exact forall_sourcesDiffer_table_iff conventions table _ apart
  | view view =>
    refine iff_of_true (fun operation member => ?_) trivial
    rw [List.mem_singleton.1 member]
    exact conventions.sourcesDiffer_whole
  | function function =>
    exact List.forall_mem_singleton.trans (conventions.sourcesDiffer_call_iff function.parameters)

/-- A table with few statements. -/
def labels : Table where
  name := "Labels"
  columns := [{ name := "Id", declaredType := "int" }, { name := "Text", declaredType := "text" }]
  primaryKey := some ["Id"]

theorem forall_sourcesDiffer_iff_labels :
    ∃ whole, (standard {} .oracle sqlServerTypes).synthesizeRelation (.table labels) = .ok whole ∧
      ∀ method ∈ whole.methods, method.SourcesDiffer := by
  obtain ⟨whole, synthesized⟩ := exists_eq_ok_of_toBool
    ((standard {} .oracle sqlServerTypes).synthesizeRelation (.table labels)) (by decide +kernel)
  have separates : (Conventions.standard {} .oracle sqlServerTypes).Separates (.table labels) := by
    constructor <;> decide +kernel
  exact ⟨whole, synthesized, (forall_sourcesDiffer_iff {} .oracle sqlServerTypes (.table labels)
    whole synthesized).2 separates⟩

/-- A function with two parameters that are one argument in `camelCase`. -/
def ordersBetween : TableFunction where
  name := "OrdersBetween"
  columns := [{ name := "Id", declaredType := "int" }]
  parameters := [
    { name := "fromDate", declaredType := "date" }, { name := "FromDate", declaredType := "date" }]

/-- A method that takes one argument twice, for two placeholders. -/
theorem exists_argument_of_two_parameters :
    ∃ whole, (standard {} .sqlServer sqlServerTypes).synthesizeRelation
        (.function ordersBetween) = .ok whole ∧
      ∃ method ∈ whole.methods,
        method.body.bindings.map (·.name) = ["fromDate", "FromDate"] ∧
        method.body.bindings.map (·.source) = [.argument "fromDate", .argument "fromDate"] ∧
        method.parameters.map (·.name) = ["fromDate", "fromDate"] := by
  obtain ⟨whole, synthesized, found⟩ := exists_eq_ok_of_any
    ((standard {} .sqlServer sqlServerTypes).synthesizeRelation (.function ordersBetween))
    (fun whole => whole.methods.any fun method =>
      method.body.bindings.map (·.name) == ["fromDate", "FromDate"] &&
      method.body.bindings.map (·.source) == [.argument "fromDate", .argument "fromDate"] &&
      method.parameters.map (·.name) == ["fromDate", "fromDate"]) (by decide +kernel)
  simp only [List.any_eq_true, Bool.and_eq_true, beq_iff_eq] at found
  obtain ⟨method, member, ⟨names, sources⟩, parameters⟩ := found
  exact ⟨whole, synthesized, method, member, names, sources, parameters⟩

end Synthesizer

end DataAccess

import DataAccess.Proofs.Method.Bindings
import DataAccess.Proofs.Method.Standard
import DataAccess.Proofs.Method.Wording
import DataAccess.Proofs.Sql.Fragments

/-!
The parts of statements: fixed words, the full name of the relation, names of its columns, and the
placeholders of bindings. What holds of them and composes holds of every fragment.
-/
set_option autoImplicit false

namespace DataAccess

open Sql

section Clauses

variable {holds : String → Prop} (conventions : Conventions) (statement : Statement)
  (composes : Composes holds) (words : ∀ word ∈ fixedWords, holds word)

include composes words

theorem holds_assignment (column : Column) (name : holds column.name)
    (marker : holds (conventions.columnMarker column)) :
    holds (conventions.assignment column) := by
  have equals := words "=" (by decide)
  rw [Conventions.assignment_eq]
  exact composes.space _ _ (composes.space _ _ name equals) marker

theorem holds_filterTerm (filter : Filter) (name : holds filter.column.name)
    (marker : holds (conventions.dialect.marker filter.marker)) :
    holds (conventions.filterTerm filter) := by
  have missing := composes.space _ _ marker (words "is null or" (by decide))
  have equals := words "=" (by decide)
  rw [Conventions.filterTerm_eq]
  refine composes.enclosed _ (composes.space _ _ (composes.space _ _ ?_ equals) marker)
  exact composes.space _ _ missing name

theorem all_projection (relation : Relation)
    (columns : ∀ column ∈ relation.columns, holds column.name) :
    (projection relation).All holds := by
  rw [projection, all_keyword, all_list, all_keyword]
  have items := forall_separated "," composes.comma _ (List.forall_mem_map.2 columns)
  exact ⟨⟨⟨all_empty, words "select" (by decide)⟩, items⟩, words "from" (by decide)⟩

theorem all_predicate (key : List Column) (before : statement.All holds)
    (assigned : ∀ column ∈ key, holds (conventions.assignment column)) :
    (conventions.predicate statement key).All holds := by
  rw [Conventions.predicate, all_list, all_keyword]
  refine ⟨⟨before, words "where" (by decide)⟩, ?_⟩
  exact forall_separated " and" (composes.before_and (words "and" (by decide))) _
    (List.forall_mem_map.2 assigned)

theorem all_filterClause (filters : List Filter) (before : statement.All holds)
    (terms : ∀ filter ∈ filters, holds (conventions.filterTerm filter)) :
    (conventions.filterClause statement filters).All holds := by
  rw [Conventions.filterClause]
  split
  · exact before
  · rw [all_list, all_keyword]
    refine ⟨⟨before, words "where" (by decide)⟩, ?_⟩
    exact forall_separated " and" (composes.before_and (words "and" (by decide))) _
      (List.forall_mem_map.2 terms)

theorem all_pageClause (first : Column) (before : statement.All holds) (name : holds first.name)
    (size : holds (conventions.scalarMarker pageSizeName))
    (number : holds (conventions.scalarMarker pageNumberName)) :
    (conventions.pageClause statement first).All holds := by
  simp only [Conventions.pageClause, all_keyword, all_item, offset_eq, fetch_eq]
  have skipped := composes.space _ _ (composes.space _ _ number (words "-" (by decide)))
    (words "1" (by decide))
  have offset := composes.space _ _ (composes.space _ _ (words "offset" (by decide)) size)
    (words "*" (by decide))
  refine ⟨⟨⟨⟨before, words "order by" (by decide)⟩, name⟩, ?_⟩, ?_⟩
  · exact composes.space _ _ (composes.space _ _ offset (composes.enclosed _ skipped))
      (words "rows" (by decide))
  · exact composes.space _ _ (composes.space _ _ (words "fetch next" (by decide)) size)
      (words "rows only" (by decide))

theorem all_valuesClause (columns : List Column) (before : statement.All holds)
    (names : ∀ column ∈ columns, holds column.name)
    (markers : ∀ column ∈ columns, holds (conventions.columnMarker column)) :
    (conventions.valuesClause statement columns).All holds := by
  rw [Conventions.valuesClause]
  split
  · rw [all_keyword]
    exact ⟨before, words "default values" (by decide)⟩
  · have opening := words "(" (by decide)
    have closing := words ")" (by decide)
    have written := forall_separated "," composes.comma _ (List.forall_mem_map.2 names)
    have given := forall_separated "," composes.comma _ (List.forall_mem_map.2 markers)
    simp only [all_item, all_list, all_keyword]
    exact ⟨⟨⟨⟨⟨⟨⟨before, opening⟩, written⟩, closing⟩, words "values" (by decide)⟩, opening⟩,
      given⟩, closing⟩

theorem holds_identityClause (known : KnownDialect) (column marker : String)
    (systemVariable : known = .sqlServer → holds "@@identity") (name : holds column)
    (output : holds marker) : holds (known.dialect.identityClause column marker) := by
  have selected := composes.space _ _ (composes.space _ _ (words "select" (by decide)) output)
    (words "=" (by decide))
  rw [identityClause_known]
  cases known with
  | sqlServer => exact composes.space _ _ selected (systemVariable rfl)
  | sqlServerScoped =>
    have called := composes.space _ _ selected (words "scope_identity" (by decide))
    exact composes.call _ "" called composes.empty
  | oracle =>
    have returned := composes.space _ _ (words "returning" (by decide)) name
    exact composes.space _ _ (composes.space _ _ returned (words "into" (by decide))) output

end Clauses

/-- Something holds of all parts of the statement of a shape. -/
structure HoldsOfParts (conventions : Conventions) (known : KnownDialect) (relation : Relation)
    (shape : Shape) (holds : String → Prop) : Prop where
  words : ∀ word ∈ fixedWords, holds word
  systemVariable : known = .sqlServer → holds "@@identity"
  fullName : holds relation.fullName
  selected : ∀ column ∈ relation.columns, holds column.name
  mentioned : ∀ column ∈ shape.columns, holds column.name
  markers : ∀ name ∈ conventions.bound shape, holds (conventions.dialect.marker name)

/-- What holds of the parts of a statement and composes holds of its fragments. -/
theorem all_statement (settings : Settings) (known : KnownDialect) (types : TypeResolver)
    (relation : Relation) (shape : Shape) (holds : String → Prop) (composes : Composes holds)
    (parts : HoldsOfParts (.standard settings known types) known relation shape holds) :
    ((Conventions.standard settings known types).statement relation shape).All holds := by
  obtain ⟨words, systemVariable, fullName, selected, mentioned, markers⟩ := parts
  have projected := all_projection composes words relation selected
  have whole : ((projection relation).item relation.fullName).All holds :=
    (all_item _ _).2 ⟨projected, fullName⟩
  have start : ∀ word ∈ fixedWords,
      ((({} : Statement).keyword word).item relation.fullName).All holds := by
    intro word fixed
    rw [all_item, all_keyword]
    exact ⟨⟨all_empty, words word fixed⟩, fullName⟩
  cases shape with
  | rows filters order =>
    simp only [Shape.columns, List.forall_mem_append, List.forall_mem_map] at mentioned
    simp only [Conventions.bound, List.forall_mem_append, List.forall_mem_map] at markers
    have filtered := all_filterClause (Conventions.standard settings known types) _ composes words
      filters whole fun filter member => holds_filterTerm _ composes words filter
        (mentioned.1 filter member) (markers.1 filter member)
    cases order with
    | none => exact filtered
    | some first =>
      have scalars := markers.2
      simp only [Option.isSome_some, ↓reduceIte, List.forall_mem_map] at scalars
      exact all_pageClause _ _ composes words first filtered
        (mentioned.2 first (by simp)) (scalars _ (by simp)) (scalars _ (by simp))
  | whole => exact whole
  | call parameters =>
    simp only [Conventions.bound, List.forall_mem_map] at markers
    rw [Conventions.statement, all_item]
    exact ⟨projected, composes.call _ _ fullName
      (composes.commas _ (List.forall_mem_map.2 markers))⟩
  | lookup key =>
    simp only [Conventions.bound, List.forall_mem_map] at markers
    exact all_predicate _ _ composes words key whole fun column member =>
      holds_assignment _ composes words column (mentioned column member) (markers column member)
  | insert columns identity =>
    simp only [Shape.columns, List.forall_mem_append] at mentioned
    simp only [Conventions.bound, List.forall_mem_append, List.forall_mem_map] at markers
    have filled := all_valuesClause (Conventions.standard settings known types) _ composes words
      columns (start "insert into" (by decide)) mentioned.1 markers.1
    cases identity with
    | none => exact filled
    | some column =>
      rw [Conventions.statement, all_keyword]
      exact ⟨filled, holds_identityClause composes words known _ _ systemVariable
        (mentioned.2 column (by simp)) (markers.2 column (by simp))⟩
  | update written key =>
    simp only [Shape.columns, List.forall_mem_append] at mentioned
    simp only [Conventions.bound, List.forall_mem_append, List.forall_mem_map] at markers
    have free : ∀ column ∈ written,
        holds ((Conventions.standard settings known types).assignment column) :=
      fun column member => holds_assignment _ composes words column (mentioned.1 column member)
        (markers.1 column member)
    have keyed : ∀ column ∈ key,
        holds ((Conventions.standard settings known types).assignment column) :=
      fun column member => holds_assignment _ composes words column (mentioned.2 column member)
        (markers.2 column member)
    have assigned : ∀ column ∈ if written.isEmpty then key else written,
        holds ((Conventions.standard settings known types).assignment column) := by
      split
      · exact keyed
      · exact free
    refine all_predicate _ _ composes words key ?_ keyed
    rw [all_list, all_keyword]
    exact ⟨⟨start "update" (by decide), words "set" (by decide)⟩,
      forall_separated "," composes.comma _ (List.forall_mem_map.2 assigned)⟩
  | delete key =>
    simp only [Conventions.bound, List.forall_mem_map] at markers
    exact all_predicate _ _ composes words key (start "delete from" (by decide))
      fun column member =>
        holds_assignment _ composes words column (mentioned column member) (markers column member)

end DataAccess

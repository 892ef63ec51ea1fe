import DataAccess.Proofs.Method.Bindings
import DataAccess.Proofs.Method.Spelling
import DataAccess.Proofs.Sql.Placeholders

/-!
The placeholders of a statement are the names that its shape is bound to. Only a name that is empty
is lost, since a sigil without a name is no placeholder.
-/
set_option autoImplicit false

namespace DataAccess

open Sql Text

variable (known : KnownDialect)

/-- The names of the placeholders in a text. -/
def namesIn (text : List Char) : List String :=
  (scanMarkers known.dialect.sigil .text text).map String.ofList

/-- The names that are not empty. -/
def filled (names : List String) : List String :=
  names.filter (· ≠ "")

theorem isSolid_sigil : IsSolid known.dialect.sigil := by
  cases known <;> exact ⟨by decide, by decide, by decide⟩

theorem namesIn_ignoresPunctuation : IgnoresPunctuation (namesIn known) := by
  have notComma : known.dialect.sigil ≠ ',' := by cases known <;> decide
  have scanned := (isSolid_sigil known).scanMarkers_ignoresPunctuation notComma
  refine ⟨⟨rfl, ?_⟩, ?_⟩
  · intro before after c blank
    rw [namesIn, scanned.blank before after c blank, List.map_append]
    rfl
  · intro before after c member
    rw [namesIn, scanned.punctuation before after c member, List.map_append]
    rfl

section Words

theorem namesIn_of_no_sigil (text : List Char) (absent : known.dialect.sigil ∉ text) :
    namesIn known text = [] := by
  rw [namesIn, scanMarkers_of_no_sigil text absent]
  rfl

theorem namesIn_identifier (name : String)
    (letters : ∀ c ∈ name.toList, isIdentifierChar c = true) :
    namesIn known name.toList = [] := by
  apply namesIn_of_no_sigil
  intro member
  have letter := letters _ member
  rw [isIdentifierChar_sigil] at letter
  cases letter

theorem namesIn_fullName (relation : Relation) (named : relation.heading.WellNamed) :
    namesIn known relation.fullName.toList = [] := by
  apply namesIn_of_no_sigil
  intro member
  have outside := isIdentifierChar_sigil known
  rcases mem_fullName relation.heading _ member with ⟨schema, present, inside⟩ | dot | inside
  · rw [letters_of_isIdentifier schema (named.schema schema present) _ inside] at outside
    cases outside
  · cases known <;> exact absurd dot (by decide)
  · rw [letters_of_isIdentifier _ named.name _ inside] at outside
    cases outside

/-- The words of statements have no placeholders. -/
theorem namesIn_fixedWord (word : String) (fixed : word ∈ fixedWords) :
    namesIn known word.toList = [] := by
  revert word
  cases known <;> decide

theorem namesIn_marker (name : String) (letters : ∀ c ∈ name.toList, isIdentifierChar c = true) :
    namesIn known (known.dialect.marker name).toList = filled [name] := by
  rw [toList_marker_known]
  by_cases empty : name = ""
  · subst empty
    cases known <;> decide
  · have some : name.toList ≠ [] := fun nothing => empty (String.toList_eq_nil_iff.1 nothing)
    have plain : known.dialect.sigil ∉ name.toList := by
      intro member
      have letter := letters _ member
      rw [isIdentifierChar_sigil] at letter
      cases letter
    have read := scanMarkers_marker name.toList some
      (fun c member => isIdentChar_of_isIdentifierChar c (letters c member)) plain
    simp [namesIn, read, filled, empty]

end Words

theorem filled_append (first second : List String) :
    filled (first ++ second) = filled first ++ filled second :=
  List.filter_append ..

/-- Names of columns and parameters are never empty. -/
theorem filled_identifiers (names : List String)
    (identifiers : ∀ name ∈ names, isIdentifier name = true) : filled names = names := by
  apply List.filter_eq_self.2
  intro name member
  have some := filled_of_isIdentifier name (identifiers name member)
  simpa [String.toList_eq_nil_iff] using some

theorem filled_flatMap (names : List String) :
    (names.flatMap fun name => filled [name]) = filled names := by
  induction names with
  | nil => rfl
  | cons name rest ih =>
    rw [List.flatMap_cons, ih, ← filled_append]
    rfl

section Fragments

variable (settings : Settings) (known : KnownDialect) (types : TypeResolver)

theorem namesIn_column (column : Column) (identifier : isIdentifier column.name = true) :
    namesIn known (known.dialect.marker column.name).toList = [column.name] := by
  rw [namesIn_marker known column.name (letters_of_isIdentifier _ identifier)]
  exact filled_identifiers [column.name] (by simpa using identifier)

theorem namesIn_assignment (column : Column) (identifier : isIdentifier column.name = true) :
    namesIn known ((Conventions.standard settings known types).assignment column).toList =
      [column.name] := by
  rw [read_assignment (namesIn_ignoresPunctuation known), columnMarker_standard,
    namesIn_column known column identifier,
    namesIn_identifier known column.name (letters_of_isIdentifier _ identifier),
    namesIn_fixedWord known "=" (by decide)]
  rfl

theorem namesIn_assignments (columns : List Column)
    (identifiers : ∀ column ∈ columns, isIdentifier column.name = true) :
    ((columns.map (Conventions.standard settings known types).assignment).flatMap
      fun item => namesIn known item.toList) = columns.map (·.name) := by
  rw [List.flatMap_map, List.map_eq_flatMap]
  apply List.flatMap_congr
  intro column member
  exact namesIn_assignment settings known types column (identifiers column member)

theorem namesIn_filterTerm (filter : Filter) (identifier : isIdentifier filter.column.name = true)
    (letters : ∀ c ∈ filter.marker.toList, isIdentifierChar c = true) :
    namesIn known ((Conventions.standard settings known types).filterTerm filter).toList =
      filled [filter.marker] ++ filled [filter.marker] := by
  rw [read_filterTerm (namesIn_ignoresPunctuation known), dialect_standard,
    namesIn_marker known filter.marker letters,
    namesIn_identifier known filter.column.name (letters_of_isIdentifier _ identifier),
    namesIn_fixedWord known "=" (by decide), namesIn_fixedWord known "is null or" (by decide)]
  simp

theorem namesIn_and (item : String) :
    namesIn known (item ++ " and").toList = namesIn known item.toList := by
  rw [space_and, ← String.append_assoc, (namesIn_ignoresPunctuation known).space,
    namesIn_fixedWord known "and" (by decide), List.append_nil]

end Fragments

section Clauses

variable (settings : Settings) (known : KnownDialect) (types : TypeResolver)

theorem reading_selection (relation : Relation) (named : relation.heading.WellNamed)
    (word : String) :
    ((projection relation).item word).reading (namesIn known) = namesIn known word.toList := by
  have columns : (relation.columns.flatMap fun column => namesIn known column.name.toList) = [] :=
    List.flatMap_eq_nil_iff.2 fun column member =>
      namesIn_identifier known column.name
        (letters_of_isIdentifier _ (named.columns column member))
  rw [reading_item, read_projection (namesIn_ignoresPunctuation known), columns,
    namesIn_fixedWord known "select" (by decide), namesIn_fixedWord known "from" (by decide)]
  rfl

theorem reading_predicate (statement : Statement) (key : List Column)
    (identifiers : ∀ column ∈ key, isIdentifier column.name = true) :
    ((Conventions.standard settings known types).predicate statement key).reading
        (namesIn known) =
      statement.reading (namesIn known) ++ key.map (·.name) := by
  rw [Conventions.predicate, reading_list, flatMap_separated " and" (namesIn_and known),
    namesIn_assignments settings known types key identifiers, reading_keyword,
    namesIn_fixedWord known "where" (by decide), List.append_nil]

theorem reading_filterClause (statement : Statement) (filters : List Filter)
    (sound : ∀ filter ∈ filters, isIdentifier filter.column.name = true ∧
      ∀ c ∈ filter.marker.toList, isIdentifierChar c = true) :
    ((Conventions.standard settings known types).filterClause statement filters).reading
        (namesIn known) =
      statement.reading (namesIn known) ++
        filters.flatMap fun filter => filled [filter.marker] ++ filled [filter.marker] := by
  have terms : ((filters.map (Conventions.standard settings known types).filterTerm).flatMap
      fun item => namesIn known item.toList) =
      filters.flatMap fun filter => filled [filter.marker] ++ filled [filter.marker] := by
    rw [List.flatMap_map]
    apply List.flatMap_congr
    intro filter member
    exact namesIn_filterTerm settings known types filter (sound filter member).1
      (sound filter member).2
  cases filters with
  | nil => simp [Conventions.filterClause]
  | cons first rest =>
    rw [Conventions.filterClause, List.isEmpty_cons, if_neg (by simp), reading_list,
      flatMap_separated " and" (namesIn_and known), terms, reading_keyword,
      namesIn_fixedWord known "where" (by decide), List.append_nil]

theorem reading_pageClause (statement : Statement) (first : Column)
    (identifier : isIdentifier first.name = true) :
    ((Conventions.standard settings known types).pageClause statement first).reading
        (namesIn known) =
      statement.reading (namesIn known) ++ ["pageSize", "pageNumber", "pageSize"] := by
  have ignores := namesIn_ignoresPunctuation known
  have size : namesIn known (known.dialect.marker "pageSize").toList = ["pageSize"] := by
    cases known <;> decide
  have number : namesIn known (known.dialect.marker "pageNumber").toList = ["pageNumber"] := by
    cases known <;> decide
  have name := namesIn_identifier known first.name (letters_of_isIdentifier _ identifier)
  simp only [Conventions.pageClause, reading_keyword, reading_item, scalarMarker_standard,
    camel_pageSizeName, camel_pageNumberName, read_offset ignores, read_fetch ignores, size, number,
    name]
  have fixed := namesIn_fixedWord known
  simp only [fixed "order by" (by decide), fixed "offset" (by decide), fixed "*" (by decide),
    fixed "-" (by decide), fixed "1" (by decide), fixed "rows" (by decide),
    fixed "fetch next" (by decide), fixed "rows only" (by decide), List.append_nil,
    List.nil_append, List.append_assoc, List.cons_append]

theorem reading_valuesClause (statement : Statement) (columns : List Column)
    (identifiers : ∀ column ∈ columns, isIdentifier column.name = true) :
    ((Conventions.standard settings known types).valuesClause statement columns).reading
        (namesIn known) =
      statement.reading (namesIn known) ++ columns.map (·.name) := by
  have ignores := namesIn_ignoresPunctuation known
  have fixed := namesIn_fixedWord known
  cases columns with
  | nil =>
    have word := fixed "default values" (by decide)
    rw [Conventions.valuesClause, List.isEmpty_nil, if_pos rfl, reading_keyword, word]
    rfl
  | cons first rest =>
    have names : (((first :: rest).map (·.name)).flatMap fun item =>
        namesIn known item.toList) = [] := by
      rw [List.flatMap_map]
      exact List.flatMap_eq_nil_iff.2 fun column member =>
        namesIn_identifier known column.name (letters_of_isIdentifier _ (identifiers column member))
    have markers : (((first :: rest).map
        (Conventions.standard settings known types).columnMarker).flatMap fun item =>
        namesIn known item.toList) = (first :: rest).map (·.name) := by
      rw [List.flatMap_map, List.map_eq_flatMap]
      exact List.flatMap_congr fun column member =>
        namesIn_column known column (identifiers column member)
    simp only [Conventions.valuesClause, List.isEmpty_cons, Bool.false_eq_true, ↓reduceIte,
      reading_item, reading_keyword, reading_list, ignores.separated_comma, names, markers,
      fixed "(" (by decide), fixed ")" (by decide), fixed "values" (by decide), List.append_nil]

theorem reading_identity (column : Column) (identifier : isIdentifier column.name = true) :
    namesIn known (known.dialect.identityClause column.name
      ((Conventions.standard settings known types).columnMarker column)).toList =
      [column.name] := by
  have fixed := namesIn_fixedWord known
  have name := namesIn_identifier known column.name
    (letters_of_isIdentifier _ identifier)
  have marker := namesIn_column known column identifier
  rw [read_identityClause (namesIn_ignoresPunctuation known), columnMarker_standard]
  cases known with
  | sqlServer =>
    have systemVariable : namesIn .sqlServer "@@identity".toList = [] := by decide
    simp only [identityReading, marker, fixed "select" (by decide), fixed "=" (by decide),
      systemVariable, List.append_nil, List.nil_append]
  | sqlServerScoped =>
    simp only [identityReading, marker, fixed "select" (by decide), fixed "=" (by decide),
      fixed "scope_identity" (by decide), List.append_nil, List.nil_append]
  | oracle =>
    simp only [identityReading, marker, name, fixed "returning" (by decide),
      fixed "into" (by decide), List.append_nil, List.nil_append]

end Clauses

section Shapes

variable (settings : Settings) (known : KnownDialect) (types : TypeResolver)

theorem filled_columns (columns : List Column)
    (identifiers : ∀ column ∈ columns, isIdentifier column.name = true) :
    filled (columns.map (·.name)) = columns.map (·.name) := by
  apply filled_identifiers
  intro name member
  obtain ⟨column, inside, rfl⟩ := List.mem_map.1 member
  exact identifiers column inside

theorem distinct_rows (relation : Relation) (named : relation.heading.WellNamed)
    (filters : List Filter) (order : Option Column) (sound : (Shape.rows filters order).Sound) :
    distinct (((Conventions.standard settings known types).statement relation
        (.rows filters order)).reading (namesIn known)) =
      distinct (filled ((Conventions.standard settings known types).bound
        (.rows filters order))) := by
  obtain ⟨terms, ordered⟩ := sound
  have selected := reading_selection known relation named relation.fullName
  have filtered := reading_filterClause settings known types
    ((projection relation).item relation.fullName) filters terms
  rw [selected, namesIn_fullName known relation named, List.nil_append] at filtered
  have markers := distinct_flatMap_twice (fun filter : Filter => filled [filter.marker]) filters
  rw [← List.flatMap_map (f := fun filter : Filter => filter.marker)
    (g := fun name => filled [name]), filled_flatMap] at markers
  cases order with
  | none =>
    simp only [Conventions.statement, Conventions.bound, filtered, Option.isSome_none,
      Bool.false_eq_true, ↓reduceIte, List.append_nil]
    exact markers
  | some first =>
    have paged := reading_pageClause settings known types
      ((Conventions.standard settings known types).filterClause
        ((projection relation).item relation.fullName) filters) first (ordered first rfl)
    have scalars : filled ([pageSizeName, pageNumberName].map
        (Conventions.standard settings known types).naming.scalarMarker) =
        ["pageSize", "pageNumber"] := by
      rw [map_scalarMarker_standard]
      decide
    simp only [Conventions.statement, Conventions.bound, paged, filtered, Option.isSome_some,
      ↓reduceIte, filled_append, scalars]
    exact distinct_append_congr markers (by decide)

theorem reading_call (relation : Relation) (named : relation.heading.WellNamed)
    (parameters : List Parameter)
    (identifiers : ∀ parameter ∈ parameters, isIdentifier parameter.name = true) :
    ((Conventions.standard settings known types).statement relation (.call parameters)).reading
        (namesIn known) = filled (parameters.map (·.name)) := by
  have ignores := namesIn_ignoresPunctuation known
  have arguments : ((parameters.map fun parameter => known.dialect.marker parameter.name).flatMap
      fun item => namesIn known item.toList) = filled (parameters.map (·.name)) := by
    rw [← filled_flatMap, List.flatMap_map, List.flatMap_map]
    exact List.flatMap_congr fun parameter member => namesIn_marker known parameter.name
      (letters_of_isIdentifier _ (identifiers parameter member))
  have called := reading_selection known relation named (relation.fullName ++ "(" ++
    ", ".intercalate (parameters.map fun parameter => known.dialect.marker parameter.name) ++ ")")
  rw [ignores.call, namesIn_fullName known relation named, ignores.commas, arguments,
    List.nil_append] at called
  exact called

theorem reading_insert (relation : Relation) (named : relation.heading.WellNamed)
    (columns : List Column) (identity : Option Column)
    (sound : (Shape.insert columns identity).Sound) :
    ((Conventions.standard settings known types).statement relation
        (.insert columns identity)).reading (namesIn known) =
      columns.map (·.name) ++ identity.toList.map (·.name) := by
  obtain ⟨written, read⟩ := sound
  have values := reading_valuesClause settings known types
    ((({} : Statement).keyword "insert into").item relation.fullName) columns written
  rw [reading_item, reading_keyword, reading_empty, namesIn_fullName known relation named,
    namesIn_fixedWord known "insert into" (by decide)] at values
  cases identity with
  | none =>
    rw [Option.toList_none, List.map_nil, List.append_nil]
    exact values
  | some column =>
    have generated := reading_identity settings known types column (read column rfl)
    simp only [Conventions.statement, dialect_standard, reading_keyword, values, generated]
    rfl

theorem reading_update (relation : Relation) (named : relation.heading.WellNamed)
    (written key : List Column) (sound : (Shape.update written key).Sound) :
    ((Conventions.standard settings known types).statement relation
        (.update written key)).reading (namesIn known) =
      (if written.isEmpty then key else written).map (·.name) ++ key.map (·.name) := by
  simp only [Conventions.statement]
  rw [reading_predicate settings known types _ key sound.2, reading_list,
    (namesIn_ignoresPunctuation known).separated_comma,
    namesIn_assignments settings known types _ sound.assigned, reading_keyword, reading_item,
    reading_keyword, reading_empty, namesIn_fullName known relation named,
    namesIn_fixedWord known "update" (by decide), namesIn_fixedWord known "set" (by decide)]
  rfl

/-- The placeholders of a statement in order of first occurrence. -/
theorem distinct_reading (relation : Relation) (named : relation.heading.WellNamed)
    (shape : Shape) (sound : shape.Sound) :
    distinct (((Conventions.standard settings known types).statement relation shape).reading
        (namesIn known)) =
      distinct (filled ((Conventions.standard settings known types).bound shape)) := by
  have full := namesIn_fullName known relation named
  have selected := reading_selection known relation named relation.fullName
  rw [full] at selected
  cases shape with
  | rows filters order =>
    exact distinct_rows settings known types relation named filters order sound
  | whole =>
    simp only [Conventions.statement, Conventions.bound, selected]
    rfl
  | call parameters =>
    rw [reading_call settings known types relation named parameters sound]
    rfl
  | lookup key =>
    have identifiers : ∀ column ∈ key, isIdentifier column.name = true := sound
    have located := reading_predicate settings known types
      ((projection relation).item relation.fullName) key identifiers
    rw [selected, List.nil_append, ← filled_columns key identifiers] at located
    exact congrArg distinct located
  | insert columns identity =>
    have generated : ∀ column ∈ identity.toList, isIdentifier column.name = true := by
      intro column member
      exact sound.2 column (by simpa using member)
    rw [reading_insert settings known types relation named columns identity sound,
      ← filled_columns columns sound.1, ← filled_columns identity.toList generated,
      ← filled_append]
    rfl
  | update written key =>
    rw [reading_update settings known types relation named written key sound]
    have names : filled ((Conventions.standard settings known types).bound (.update written key)) =
        written.map (·.name) ++ key.map (·.name) := by
      rw [← filled_columns written sound.1, ← filled_columns key sound.2, ← filled_append]
      rfl
    rw [names]
    -- a key that is set to itself occurs twice and is bound once
    cases written with
    | nil => exact distinct_append_of_subset _ _ fun _ member => member
    | cons first rest => rfl
  | delete key =>
    have identifiers : ∀ column ∈ key, isIdentifier column.name = true := sound
    have located := reading_predicate settings known types
      ((({} : Statement).keyword "delete from").item relation.fullName) key identifiers
    rw [reading_item, reading_keyword, reading_empty, full,
      namesIn_fixedWord known "delete from" (by decide), List.append_nil, List.nil_append,
      ← filled_columns key identifiers] at located
    exact congrArg distinct located

/-- A statement has a placeholder for each of its bindings that has a name. -/
theorem placeholders_statement (relation : Relation) (named : relation.heading.WellNamed)
    (shape : Shape) (sound : shape.Sound) :
    placeholders ((Conventions.standard settings known types).statement relation shape).sql
        known.dialect.sigil =
      distinct (filled ((Conventions.standard settings known types).bound shape)) := by
  rw [← distinct_reading settings known types relation named shape sound,
    ← read_sql (namesIn_ignoresPunctuation known).ignoresLayout]
  rfl

end Shapes

end DataAccess

import Mathlib.Data.List.Nodup
import DataAccess.Proofs.Method.Spelling

/-!
The canonical text of every operation that a valid relation supports, written out as plain text.
-/
set_option autoImplicit false

namespace DataAccess

open Sql

namespace CanonicalText

variable (known : KnownDialect)

/-- A name with the sigil of the dialect. -/
def placeholder (name : String) : String :=
  String.singleton known.dialect.sigil ++ name

def columnList (names : List String) : String :=
  ", ".intercalate names

def equation (name : String) : String :=
  name ++ " = " ++ placeholder known name

/-- The lookup of rows by columns. -/
def located (names : List String) : String :=
  " where " ++ " and ".intercalate (names.map (equation known))

def selection (relation : Relation) : String :=
  "select " ++ columnList (relation.columns.map (·.name)) ++ " from " ++ relation.fullName

/-- Each filter is a column with the name of its placeholder. -/
def filtering (filters : List (String × String)) : String :=
  match filters with
  | [] => ""
  | _ => " where " ++ " and ".intercalate (filters.map fun (column, marker) =>
      "(" ++ placeholder known marker ++ " is null or " ++ column ++ " = " ++
        placeholder known marker ++ ")")

def paging (first : String) : String :=
  " order by " ++ first ++ " offset " ++ placeholder known "pageSize" ++ " * (" ++
    placeholder known "pageNumber" ++ " - 1) rows fetch next " ++
    placeholder known "pageSize" ++ " rows only"

def values (names : List String) : String :=
  match names with
  | [] => " default values"
  | _ => " (" ++ columnList names ++ ") values (" ++ columnList (names.map (placeholder known)) ++
      ")"

def identity (name : String) : String :=
  match known with
  | .sqlServer => " select @" ++ name ++ " = @@identity"
  | .sqlServerScoped => " select @" ++ name ++ " = scope_identity()"
  | .oracle => " returning " ++ name ++ " into :" ++ name

/-- The text of a statement by what it is about. -/
def ofShape (relation : Relation) : Shape → String
  | .rows filters order =>
    selection relation ++
      filtering known (filters.map fun filter => (filter.column.name, filter.marker)) ++
      (match order with | some first => paging known first.name | none => "")
  | .whole => selection relation
  | .call parameters =>
    selection relation ++ "(" ++
      columnList (parameters.map fun parameter => placeholder known parameter.name) ++ ")"
  | .lookup key => selection relation ++ located known (key.map (·.name))
  | .insert columns generated =>
    "insert into " ++ relation.fullName ++ values known (columns.map (·.name)) ++
      (match generated with | some column => identity known column.name | none => "")
  | .update written key =>
    let assigned := if written.isEmpty then key else written
    "update " ++ relation.fullName ++ " set " ++
      columnList ((assigned.map (·.name)).map (equation known)) ++
      located known (key.map (·.name))
  | .delete key => "delete from " ++ relation.fullName ++ located known (key.map (·.name))

variable (settings : Settings)

/-- The name of the placeholder that a column is filtered by. -/
def filterMarker (table : Table) (paging : Bool) (name : String) : String :=
  let filters := defaultNaming.filtersOn (defaultNaming.pagingNames paging) table.filtered
  ((filters.find? (·.column.name == name)).map (·.marker)).getD ""

/-- The columns of foreign keys with one column, each once and in the order of the keys, with the
names of their placeholders. -/
def filters (table : Table) (paging : Bool) : List (String × String) :=
  (distinct table.singleColumns).map fun name => (name, filterMarker table paging name)

def readAll (table : Table) (paged : Bool) : String :=
  selection (.table table) ++ filtering known (filters table paged) ++
    (if paged then paging known ((table.columns.map (·.name)).headD "") else "")

/-- What an update sets; a key that would be left alone is set to itself. -/
def assigned (table : Table) : List String :=
  match table.updated settings.updateExclusions with
  | [] => table.keyNames
  | columns => columns.map (·.name)

def ofTable (table : Table) (operation : Operation) : String :=
  let name := table.fullName
  match operation.kind with
  | .readAll => readAll known table operation.settings.paging
  | .readByKey => selection (.table table) ++ located known table.keyNames
  | .readByUnique =>
    selection (.table table) ++ located known ((operation.unique.map (·.columns)).getD [])
  | .insert =>
    "insert into " ++ name ++ values known ((table.inserted settings.insertExclusions).map (·.name)) ++
      (match table.identity with | some column => identity known column | none => "")
  | .update =>
    "update " ++ name ++ " set " ++
      columnList ((assigned settings table).map (equation known)) ++ located known table.keyNames
  | .delete => "delete from " ++ name ++ located known table.keyNames

end CanonicalText

/-- The canonical text of an operation. -/
def canonicalText (settings : Settings) (known : KnownDialect) (operation : Operation) : String :=
  match operation.relation with
  | .table table => CanonicalText.ofTable known settings table operation
  | .view _ => CanonicalText.selection operation.relation
  | .function function =>
    CanonicalText.selection operation.relation ++ "(" ++
      CanonicalText.columnList (function.parameters.map fun parameter =>
        CanonicalText.placeholder known parameter.name) ++ ")"

section Clauses

variable (settings : Settings) (known : KnownDialect) (types : TypeResolver)
variable {statement : Statement} {text : String}

theorem placeholder_eq (name : String) :
    CanonicalText.placeholder known name = known.dialect.marker name :=
  (marker_known known name).symm

theorem map_assignment (columns : List Column) :
    columns.map (Conventions.standard settings known types).assignment =
      (columns.map (·.name)).map (CanonicalText.equation known) := by
  rw [List.map_map]
  refine List.map_congr_left fun column _ => ?_
  simp only [Conventions.assignment, columnMarker_standard, Function.comp_apply,
    CanonicalText.equation, placeholder_eq]

theorem isPhrase_of_mem_assignments (columns : List Column)
    (identifiers : ∀ column ∈ columns, isIdentifier column.name = true) :
    ∀ item ∈ columns.map (Conventions.standard settings known types).assignment,
      IsPhrase item := by
  intro item member
  obtain ⟨column, inside, rfl⟩ := List.mem_map.1 member
  exact isPhrase_assignment settings known types column (identifiers column inside)

theorem where_eq (before : String) (items : List String) :
    before ++ (" where " ++ " and ".intercalate items) =
      before ++ " " ++ "where" ++ " " ++ (" and" ++ " ").intercalate items := by
  have word : " where " = " " ++ "where" ++ " " := rfl
  have joint : " and" ++ " " = " and " := rfl
  rw [joint, word]
  simp only [String.append_assoc]

/-- A statement with the lookup of rows. -/
theorem spells_predicate (spells : Spells statement text) (key : List Column) (filled : key ≠ [])
    (identifiers : ∀ column ∈ key, isIdentifier column.name = true) :
    Spells ((Conventions.standard settings known types).predicate statement key)
      (text ++ CanonicalText.located known (key.map (·.name))) := by
  have whole := spells.clause "where" (isPhrase_spacedWord _ (by decide)) isSeparator_and
    (by simpa using filled)
    (isPhrase_of_mem_assignments settings known types key identifiers)
  rw [← where_eq, map_assignment] at whole
  rw [Conventions.predicate, map_assignment]
  exact whole

/-- A query of a relation, possibly with arguments behind its name. -/
theorem spells_selection (relation : Relation) (named : relation.heading.WellNamed)
    (arguments : String) (phrase : IsPhrase (relation.fullName ++ arguments)) :
    Spells ((projection relation).item (relation.fullName ++ arguments))
      (CanonicalText.selection relation ++ arguments) := by
  have columns : ∀ item ∈ relation.columns.map (·.name), IsPhrase item := by
    intro item member
    obtain ⟨column, inside, rfl⟩ := List.mem_map.1 member
    exact isPhrase_of_isIdentifier column.name (named.columns column inside)
  have select := Spells.first_keyword "select" (isPhrase_spacedWord _ (by decide))
  have listed := select.list isSeparator_comma (by simpa [Relation.columns] using named.filled)
    columns
  have whole := (listed.keyword "from" (isPhrase_spacedWord _ (by decide))).item phrase
  have same : CanonicalText.selection relation ++ arguments =
      "select" ++ " " ++ ("," ++ " ").intercalate (relation.columns.map (·.name)) ++ " " ++
        "from" ++ " " ++ (relation.fullName ++ arguments) := by
    simp [CanonicalText.selection, CanonicalText.columnList, ← String.toList_inj]
  rw [same]
  exact whole

/-- A query of a relation as it stands. -/
theorem spells_whole (relation : Relation) (named : relation.heading.WellNamed) :
    Spells ((projection relation).item relation.fullName) (CanonicalText.selection relation) := by
  have whole := spells_selection relation named "" (by
    rw [String.append_empty]
    exact isPhrase_fullName relation named)
  rwa [String.append_empty, String.append_empty] at whole

/-- A query with the filters, if there are any. -/
theorem spells_filterClause (spells : Spells statement text) (filters : List Filter)
    (sound : ∀ filter ∈ filters, isIdentifier filter.column.name = true ∧
      ∀ c ∈ filter.marker.toList, isIdentifierChar c = true) :
    Spells ((Conventions.standard settings known types).filterClause statement filters)
      (text ++ CanonicalText.filtering known
        (filters.map fun filter => (filter.column.name, filter.marker))) := by
  cases filters with
  | nil => simpa [Conventions.filterClause, CanonicalText.filtering] using spells
  | cons first rest =>
    have terms : ∀ item ∈ (first :: rest).map
        (Conventions.standard settings known types).filterTerm, IsPhrase item := by
      intro item member
      obtain ⟨filter, inside, rfl⟩ := List.mem_map.1 member
      obtain ⟨identifier, letters⟩ := sound filter inside
      exact isPhrase_filterTerm settings known types filter identifier letters
    have whole := spells.clause "where" (isPhrase_spacedWord _ (by decide)) isSeparator_and
      (by simp) terms
    have term : (Conventions.standard settings known types).filterTerm =
        fun filter => "(" ++ CanonicalText.placeholder known filter.marker ++ " is null or " ++
          filter.column.name ++ " = " ++ CanonicalText.placeholder known filter.marker ++
          ")" := by
      funext filter
      rw [placeholder_eq]
      rfl
    have same : CanonicalText.filtering known
          ((first :: rest).map fun filter => (filter.column.name, filter.marker)) =
        " where " ++ " and ".intercalate
          ((first :: rest).map (Conventions.standard settings known types).filterTerm) := by
      simp only [CanonicalText.filtering, List.map_cons, List.map_map, term, Function.comp_def]
    rw [same, where_eq]
    exact whole

theorem spells_pageClause (spells : Spells statement text) (first : Column)
    (identifier : isIdentifier first.name = true) :
    Spells ((Conventions.standard settings known types).pageClause statement first)
      (text ++ CanonicalText.paging known first.name) := by
  have size : IsPhrase (known.dialect.marker "pageSize") :=
    isPhrase_marker known _ (by decide)
  have number : IsPhrase (known.dialect.marker "pageNumber") :=
    isPhrase_marker known _ (by decide)
  have ordered := (spells.keyword "order by" (isPhrase_spacedWord _ (by decide))).item
    (isPhrase_of_isIdentifier first.name identifier)
  have whole := (ordered.keyword _ (isPhrase_offset _ _ size number)).keyword _
    (isPhrase_fetch _ size)
  have same : text ++ CanonicalText.paging known first.name =
      text ++ " " ++ "order by" ++ " " ++ first.name ++ " " ++
        ("offset " ++ known.dialect.marker "pageSize" ++ " * (" ++
          known.dialect.marker "pageNumber" ++ " - 1) rows") ++ " " ++
        ("fetch next " ++ known.dialect.marker "pageSize" ++ " rows only") := by
    have order : " order by " = " " ++ "order by" ++ " " := rfl
    have offset : " offset " = " " ++ "offset " := rfl
    have fetch : " - 1) rows fetch next " = " - 1) rows" ++ " " ++ "fetch next " := rfl
    delta CanonicalText.paging
    simp only [placeholder_eq, order, offset, fetch, String.append_assoc]
  rw [same]
  simpa only [Conventions.pageClause, scalarMarker_standard, camel_pageSizeName,
    camel_pageNumberName] using whole

theorem spells_valuesClause (spells : Spells statement text) (columns : List Column)
    (identifiers : ∀ column ∈ columns, isIdentifier column.name = true) :
    Spells ((Conventions.standard settings known types).valuesClause statement columns)
      (text ++ CanonicalText.values known (columns.map (·.name))) := by
  cases columns with
  | nil =>
    have whole := spells.keyword "default values" (isPhrase_spacedWord _ (by decide))
    have word : " default values" = " " ++ "default values" := rfl
    rwa [String.append_assoc, ← word] at whole
  | cons first rest =>
    have names : ∀ item ∈ (first :: rest).map (·.name), IsPhrase item := by
      intro item member
      obtain ⟨column, inside, rfl⟩ := List.mem_map.1 member
      exact isPhrase_of_isIdentifier column.name (identifiers column inside)
    have markers : ∀ item ∈ (first :: rest).map
        (Conventions.standard settings known types).columnMarker, IsPhrase item := by
      intro item member
      obtain ⟨column, inside, rfl⟩ := List.mem_map.1 member
      exact isPhrase_marker known column.name
        (letters_of_isIdentifier _ (identifiers column inside))
    have listed := (spells.enclosed (by simp) names).keyword "values"
      (isPhrase_spacedWord _ (by decide))
    have whole := listed.enclosed (by simp) markers
    have each : (Conventions.standard settings known types).columnMarker =
        fun column => CanonicalText.placeholder known column.name := by
      funext column
      rw [columnMarker_standard, placeholder_eq]
    have same : text ++ CanonicalText.values known ((first :: rest).map (·.name)) =
        text ++ " " ++ ("(" ++ ", ".intercalate ((first :: rest).map (·.name)) ++ ")") ++ " " ++
          "values" ++ " " ++ ("(" ++ ", ".intercalate ((first :: rest).map
            (Conventions.standard settings known types).columnMarker) ++ ")") := by
      have opening : " (" = " " ++ "(" := rfl
      have middle : ") values (" = ")" ++ " " ++ "values" ++ " " ++ "(" := rfl
      simp only [CanonicalText.values, CanonicalText.columnList, List.map_cons, List.map_map,
        each, Function.comp_def, opening, middle, String.append_assoc]
    rw [same]
    exact whole

/-- The clause that reads an identity back is that of the dialect. -/
theorem identity_eq (name : String) :
    CanonicalText.identity known name =
      " " ++ known.dialect.identityClause name (known.dialect.marker name) := by
  have select : " select @" = " " ++ "select " ++ String.singleton '@' := rfl
  have returning : " returning " = " " ++ "returning " := rfl
  have into : " into :" = " into " ++ String.singleton ':' := rfl
  delta CanonicalText.identity
  cases known <;>
    simp only [KnownDialect.dialect, select, returning, into, String.append_assoc]

theorem spells_identity (spells : Spells statement text) (column : Column)
    (identifier : isIdentifier column.name = true) :
    Spells (statement.keyword (known.dialect.identityClause column.name
        ((Conventions.standard settings known types).columnMarker column)))
      (text ++ CanonicalText.identity known column.name) := by
  have marked := isPhrase_marker known column.name (letters_of_isIdentifier _ identifier)
  have whole := spells.keyword _ (isPhrase_identityClause known column.name
    (known.dialect.marker column.name) (isPhrase_of_isIdentifier column.name identifier) marked)
  rw [identity_eq, ← String.append_assoc]
  exact whole

theorem spells_call (relation : Relation) (named : relation.heading.WellNamed)
    (parameters : List Parameter)
    (identifiers : ∀ parameter ∈ parameters, isIdentifier parameter.name = true) :
    Spells ((Conventions.standard settings known types).statement relation (.call parameters))
      (CanonicalText.ofShape known relation (.call parameters)) := by
  have markers : ∀ item ∈ parameters.map fun parameter =>
      CanonicalText.placeholder known parameter.name, IsPhrase item := by
    intro item member
    obtain ⟨parameter, inside, rfl⟩ := List.mem_map.1 member
    rw [placeholder_eq]
    exact isPhrase_marker known parameter.name
      (letters_of_isIdentifier _ (identifiers parameter inside))
  have called := isPhrase_call relation.fullName (isPhrase_fullName relation named) _ markers
  rw [String.append_assoc, String.append_assoc] at called
  have whole := spells_selection relation named _ called
  simp only [placeholder_eq, ← String.append_assoc] at whole
  simp only [CanonicalText.ofShape, CanonicalText.columnList, placeholder_eq]
  exact whole

theorem spells_rows (relation : Relation) (named : relation.heading.WellNamed)
    (filters : List Filter) (order : Option Column) (sound : (Shape.rows filters order).Sound) :
    Spells ((Conventions.standard settings known types).statement relation (.rows filters order))
      (CanonicalText.ofShape known relation (.rows filters order)) := by
  obtain ⟨terms, ordered⟩ := sound
  have filtered := spells_filterClause settings known types (spells_whole relation named) filters
    terms
  cases order with
  | none =>
    simpa only [Conventions.statement, CanonicalText.ofShape, String.append_empty] using filtered
  | some first => exact spells_pageClause settings known types filtered first (ordered first rfl)

theorem spells_insert (relation : Relation) (named : relation.heading.WellNamed)
    (columns : List Column) (generated : Option Column)
    (sound : (Shape.insert columns generated).Sound) :
    Spells
      ((Conventions.standard settings known types).statement relation (.insert columns generated))
      (CanonicalText.ofShape known relation (.insert columns generated)) := by
  obtain ⟨written, read⟩ := sound
  have into := (Spells.first_keyword "insert into" (isPhrase_spacedWord _ (by decide))).item
    (isPhrase_fullName relation named)
  have filled := spells_valuesClause settings known types into columns written
  have same : "insert into " = "insert into" ++ " " := rfl
  simp only [CanonicalText.ofShape, same]
  cases generated with
  | none => simpa only [Conventions.statement, String.append_empty] using filled
  | some column => exact spells_identity settings known types filled column (read column rfl)

theorem spells_update (relation : Relation) (named : relation.heading.WellNamed)
    (written key : List Column) (filled : key ≠ []) (sound : (Shape.update written key).Sound) :
    Spells ((Conventions.standard settings known types).statement relation (.update written key))
      (CanonicalText.ofShape known relation (.update written key)) := by
  have start := (Spells.first_keyword "update" (isPhrase_spacedWord _ (by decide))).item
    (isPhrase_fullName relation named)
  have assigned : (if written.isEmpty then key else written) ≠ [] := by
    cases written with
    | nil => exact filled
    | cons first rest => exact List.cons_ne_nil first rest
  have set := start.clause "set" (isPhrase_spacedWord _ (by decide)) isSeparator_comma
    (by simpa using assigned)
    (isPhrase_of_mem_assignments settings known types _ sound.assigned)
  have whole := spells_predicate settings known types set key filled sound.2
  have same : "update " ++ relation.fullName ++ " set " =
      "update" ++ " " ++ relation.fullName ++ " " ++ "set" ++ " " := by
    simp [← String.toList_inj]
  rw [CanonicalText.ofShape, same, ← map_assignment settings known types]
  exact whole

theorem spells_delete (relation : Relation) (named : relation.heading.WellNamed)
    (key : List Column) (filled : key ≠ []) (sound : (Shape.delete key).Sound) :
    Spells ((Conventions.standard settings known types).statement relation (.delete key))
      (CanonicalText.ofShape known relation (.delete key)) := by
  have deleted := (Spells.first_keyword "delete from" (isPhrase_spacedWord _ (by decide))).item
    (isPhrase_fullName relation named)
  have same : "delete from " = "delete from" ++ " " := rfl
  simp only [CanonicalText.ofShape, same]
  exact spells_predicate settings known types deleted key filled sound

/-- The statement of every shape spells its text. -/
theorem spells_shape (relation : Relation) (named : relation.heading.WellNamed) (shape : Shape)
    (sound : shape.Sound) (located : shape.Located) :
    Spells ((Conventions.standard settings known types).statement relation shape)
      (CanonicalText.ofShape known relation shape) := by
  cases shape with
  | rows filters order => exact spells_rows settings known types relation named filters order sound
  | whole => exact spells_whole relation named
  | call parameters => exact spells_call settings known types relation named parameters sound
  | lookup key =>
    exact spells_predicate settings known types (spells_whole relation named) key located sound
  | insert columns generated =>
    exact spells_insert settings known types relation named columns generated sound
  | update written key =>
    exact spells_update settings known types relation named written key located sound
  | delete key => exact spells_delete settings known types relation named key located sound

end Clauses

section Columns

variable (settings : Settings) (known : KnownDialect) (types : TypeResolver) {table : Table}

theorem map_name_assigned (key : List Column) (named : key.map (·.name) = table.keyNames) :
    (if (table.updated settings.updateExclusions).isEmpty then key
      else table.updated settings.updateExclusions).map (·.name) =
      CanonicalText.assigned settings table := by
  rw [CanonicalText.assigned]
  cases table.updated settings.updateExclusions with
  | nil => simpa using named
  | cons first rest => simp

/-- There is one filter for each column of a foreign key with one column. -/
theorem map_name_filtersOn (keyed : table.WellKeyed) (paging : Bool) :
    (defaultNaming.filtersOn (defaultNaming.pagingNames paging) table.filtered).map
      (·.column.name) = distinct table.singleColumns := by
  have has : table.Has (distinct table.singleColumns) := fun name member =>
    keyed.has_singleColumns name ((mem_distinct name _).1 member)
  have names := Table.map_name_columnsNamed _ has
  rw [← Table.filtered, ← defaultNaming.map_column_filtersOn
    (defaultNaming.pagingNames paging) table.filtered, List.map_map] at names
  exact names

/-- No two filters go by the same column, so a filter is found under the name of its column. -/
theorem filterMarker_eq (keyed : table.WellKeyed) (paging : Bool) (filter : Filter)
    (member : filter ∈ defaultNaming.filtersOn (defaultNaming.pagingNames paging)
      table.filtered) :
    CanonicalText.filterMarker table paging filter.column.name = filter.marker := by
  have once : ((defaultNaming.filtersOn (defaultNaming.pagingNames paging)
      table.filtered).map (·.column.name)).Nodup := by
    rw [map_name_filtersOn keyed paging]
    exact nodup_distinct _
  rw [CanonicalText.filterMarker]
  cases found : (defaultNaming.filtersOn (defaultNaming.pagingNames paging)
      table.filtered).find? (·.column.name == filter.column.name) with
  | none => simpa using List.find?_eq_none.1 found filter member
  | some other =>
    have named : other.column.name = filter.column.name := by
      simpa using List.find?_some found
    rw [List.inj_on_of_nodup_map once (List.mem_of_find?_eq_some found) member named]
    rfl

/-- The filters with the columns that they go by. -/
theorem map_filters (keyed : table.WellKeyed) (paging : Bool) :
    (defaultNaming.filtersOn (defaultNaming.pagingNames paging) table.filtered).map
        (fun filter => (filter.column.name, filter.marker)) =
      CanonicalText.filters table paging := by
  rw [CanonicalText.filters, ← map_name_filtersOn keyed paging, List.map_map]
  refine List.map_congr_left fun filter member => ?_
  rw [Function.comp_apply, filterMarker_eq keyed paging filter member]

end Columns

section Operations

variable (settings : Settings) (known : KnownDialect) (types : TypeResolver)

theorem ofShape_insert (table : Table) (keyed : table.WellKeyed) :
    CanonicalText.ofShape known (.table table)
        (.insert (table.inserted settings.insertExclusions) table.identityColumn?) =
      "insert into " ++ table.fullName ++
        CanonicalText.values known ((table.inserted settings.insertExclusions).map (·.name)) ++
        (match table.identity with
          | some column => CanonicalText.identity known column
          | none => "") := by
  simp only [CanonicalText.ofShape]
  cases identity : table.identity with
  | none => simp [Table.identityColumn?, identity, Relation.fullName, Relation.heading]
  | some name =>
    obtain ⟨column, found⟩ := keyed.identity name (by simp [identity])
    have named := (Table.of_findColumn? name column found).2
    simp [Table.identityColumn?, identity, found, named, Relation.fullName, Relation.heading]

/-- The text of an operation is that of its shape. -/
theorem ofShape_eq_canonicalText (operation : Operation) (planned : operation.IsPlanned) :
    CanonicalText.ofShape known operation.relation
        ((Conventions.standard settings known types).shape operation) =
      canonicalText settings known operation := by
  cases onRelation : operation.relation with
  | view view => simp only [Conventions.shape, onRelation, canonicalText, CanonicalText.ofShape]
  | function function =>
    simp only [Conventions.shape, onRelation, canonicalText, CanonicalText.ofShape]
  | table table =>
    have keyed := planned.grounded.wellKeyed onRelation
    have keys := Table.map_name_columnsNamed _ (planned.grounded.has table onRelation)
    have byKey := operation.lookupNames_eq_keyNames table
    simp only [Conventions.shape, onRelation, canonicalText, CanonicalText.ofTable]
    cases kind : operation.kind with
    | readAll =>
      have pairs := map_filters keyed operation.settings.paging
      obtain ⟨first, rest, columns⟩ :=
        List.exists_cons_of_ne_nil (planned.grounded.columns_ne_nil onRelation)
      simp only [CanonicalText.ofShape, CanonicalText.readAll, ← pairs, columns]
      cases operation.settings.paging <;> rfl
    | readByKey =>
      rw [byKey (by rw [kind]; decide)] at keys ⊢
      simp only [CanonicalText.ofShape, keys]
    | readByUnique =>
      obtain ⟨unique, -, given, names⟩ := planned.exists_unique onRelation kind
      rw [names] at keys ⊢
      simp only [CanonicalText.ofShape, keys, given, Option.map_some, Option.getD_some]
    | insert => exact ofShape_insert settings known table keyed
    | update =>
      rw [byKey (by rw [kind]; decide)] at keys ⊢
      have assigned := map_name_assigned settings (table.columnsNamed table.keyNames) keys
      simp only [CanonicalText.ofShape, keys]
      rw [← assigned]
      rfl
    | delete =>
      rw [byKey (by rw [kind]; decide)] at keys ⊢
      simp only [CanonicalText.ofShape, keys]
      rfl

/-- Every operation that a valid relation supports is rendered to its canonical text. -/
theorem sql_eq_canonicalText (relation : Relation) (operation : Operation)
    (valid : relation.validate = .ok ())
    (member : operation ∈ (Synthesizer.standard settings known types).plan relation) :
    ∃ statement,
      (Synthesizer.standard settings known types).conventions.render operation = .ok statement ∧
        statement.sql = canonicalText settings known operation := by
  have planned := isPlanned_of_mem_plan relation valid member
  have named := Relation.wellNamed_of_validate planned.valid
  have sound := sound_shape settings known types operation planned.grounded
  have located := located_shape (Conventions.standard settings known types) operation planned
  refine ⟨_, (Conventions.standard settings known types).render_eq operation planned.grounded, ?_⟩
  rw [(spells_shape settings known types operation.relation named _ sound located).sql_eq,
    ofShape_eq_canonicalText settings known types operation planned]

/-- Settings under which all rows are read page by page. -/
def paged : Settings where
  defaults := { paging := true }

/-- An insert, and a page of the rows that pass a filter. -/
theorem sql_eq_canonicalText_orders :
    (∃ statement,
      (Synthesizer.standard {} .sqlServer sqlServerTypes).conventions.render
          { kind := .insert, relation := .table orders } = .ok statement ∧
        statement.sql = "insert into shop.Orders (CustomerId, Note) " ++
          "values (@CustomerId, @Note) select @Id = @@identity") ∧
    ∃ statement,
      (Synthesizer.standard paged .oracle sqlServerTypes).conventions.render
          { kind := .readAll, relation := .table orders, settings := paged.defaults } =
        .ok statement ∧
        statement.sql = "select Id, CustomerId, Note from shop.Orders " ++
          "where (:customerId is null or CustomerId = :customerId) order by Id " ++
          "offset :pageSize * (:pageNumber - 1) rows fetch next :pageSize rows only" := by
  constructor
  · obtain ⟨statement, rendered, text⟩ := sql_eq_canonicalText {} .sqlServer sqlServerTypes
      (.table orders) { kind := .insert, relation := .table orders } validate_orders
      (by decide +kernel)
    refine ⟨statement, rendered, ?_⟩
    rw [text]
    decide +kernel
  · obtain ⟨statement, rendered, text⟩ := sql_eq_canonicalText paged .oracle sqlServerTypes
      (.table orders)
      { kind := .readAll, relation := .table orders, settings := paged.defaults }
      validate_orders (by decide +kernel)
    refine ⟨statement, rendered, ?_⟩
    rw [text]
    decide +kernel

end Operations

end DataAccess

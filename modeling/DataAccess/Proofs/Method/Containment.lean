import DataAccess.Proofs.Method.Assembly
import DataAccess.Proofs.Method.Parts
import DataAccess.Proofs.Method.Spelling

/-!
What can reach statement text. Whatever else stands in a schema or in settings, text has fixed
words, names of its relation and names of bindings, and between them a few characters only.
-/
set_option autoImplicit false

namespace DataAccess

open Sql Text

/-- The words and numbers that statements are written with. -/
def vocabulary : List String :=
  ["select", "from", "where", "is", "null", "or", "and", "order", "by", "offset", "1", "rows",
    "fetch", "next", "only", "insert", "into", "default", "values", "update", "set", "delete",
    "identity", "scope_identity", "returning"]

/-- A character that canonical text can have. -/
def isStatementChar (sigil c : Char) : Bool :=
  isIdentifierChar c || ['.', ',', '(', ')', '=', '*', '-', ' ', sigil].contains c

/-- Text with some characters only, without a comment, and with known names only. -/
structure Confined (allowed : Char → Bool) (names : List String) (text : String) : Prop where
  chars : ∀ c ∈ text.toList, allowed c = true
  noComment : ¬ ['-', '-'] <:+: text.toList
  runs : ∀ run, IsStretch isIdentifierChar text.toList run →
    String.ofList run ∈ vocabulary ∨ String.ofList run ∈ names

/-- The names that text about a relation can have. -/
def Relation.names (relation : Relation) : List String :=
  relation.heading.schema.toList ++ relation.name :: relation.columns.map (·.name)

/-- A name that a relation lends to a binding. -/
inductive Relation.Lends (relation : Relation) : String → Prop
  | column (column : Column) (member : column ∈ relation.columns) : relation.Lends column.name
  | filter (column : Column) (member : column ∈ relation.columns) (count : Nat) :
    relation.Lends (suffixed (Casing.camel column.name) count)
  | parameter (function : TableFunction) (same : relation = .function function)
    (parameter : Parameter) (member : parameter ∈ function.parameters) :
    relation.Lends parameter.name
  | pageSize : relation.Lends "pageSize"
  | pageNumber : relation.Lends "pageNumber"

/-- A method that a synthesizer gives out for a relation, with the others or alone. -/
def Synthesizer.Gives (synthesizer : Synthesizer) (relation : Relation) (method : Method) : Prop :=
  (∃ whole, synthesizer.synthesizeRelation relation = .ok whole ∧ method ∈ whole.methods) ∨
    ∃ operation, operation.relation = relation ∧
      synthesizer.synthesizeOperation operation = .ok method

theorem Synthesizer.Gives.exists_validated {synthesizer : Synthesizer} {relation : Relation}
    {method : Method} (given : synthesizer.Gives relation method) :
    ∃ operation, operation.relation = relation ∧
      synthesizer.synthesizeValidated operation = .ok method := by
  rcases given with ⟨whole, success, member⟩ | ⟨operation, same, success⟩
  · obtain ⟨⟨⟩, -, later⟩ := (bind_eq_ok_iff _ _ _).1 success
    obtain ⟨methods, made, finished⟩ := (bind_eq_ok_iff _ _ _).1 later
    rw [← (pure_eq_ok_iff _ _).1 finished] at member
    obtain ⟨operation, planned, single⟩ := exists_of_mem_mapM _ _ methods made method member
    exact ⟨operation, (of_mem_plan relation planned).1, single⟩
  · exact ⟨operation, same,
      ((synthesizer.synthesizeOperation_eq_ok_iff operation method).1 success).2⟩

section Names

variable {relation : Relation}

theorem letters_of_lends (valid : relation.validate = .ok ()) (name : String)
    (lends : relation.Lends name) : ∀ c ∈ name.toList, isIdentifierChar c = true := by
  have named := Relation.wellNamed_of_validate valid
  cases lends with
  | column column member =>
    exact letters_of_isIdentifier column.name (named.columns column member)
  | filter column member count =>
    apply letters_of_mem_suffixed
    rw [toList_camel]
    exact Casing.letters_of_mem_camelChars _
      (letters_of_isIdentifier column.name (named.columns column member))
  | parameter function same parameter member =>
    rw [same] at valid
    exact letters_of_isIdentifier parameter.name
      (Relation.parameters_of_validate valid parameter member)
  | pageSize => decide
  | pageNumber => decide

/-- Bindings have no other names. -/
theorem lends_bound (settings : Settings) (known : KnownDialect) (types : TypeResolver)
    (operation : Operation) (name : String)
    (member : name ∈ (Conventions.standard settings known types).bound
      ((Conventions.standard settings known types).shape operation)) :
    operation.relation.Lends name := by
  have own := columns_shape (Conventions.standard settings known types) operation
  cases onRelation : operation.relation with
  | view view => simp [Conventions.shape, onRelation, Conventions.bound] at member
  | function function =>
    simp only [Conventions.shape, onRelation, Conventions.bound] at member
    obtain ⟨parameter, among, rfl⟩ := List.mem_map.1 member
    exact .parameter function rfl parameter among
  | table table =>
    rw [onRelation] at own
    have ofColumns : ∀ columns : List Column,
        (∀ column ∈ columns, column ∈ (Relation.table table).columns) →
        name ∈ columns.map (·.name) → (Relation.table table).Lends name := by
      intro columns inside among
      obtain ⟨column, found, rfl⟩ := List.mem_map.1 among
      exact .column column (inside column found)
    cases kind : operation.kind with
    | readAll =>
      simp only [Conventions.shape, onRelation, kind, Shape.columns, List.forall_mem_append,
        List.forall_mem_map] at own
      simp only [Conventions.shape, onRelation, kind, Conventions.bound, List.mem_append] at member
      rcases member with filtered | scalar
      · obtain ⟨filter, among, rfl⟩ := List.mem_map.1 filtered
        obtain ⟨count, made⟩ := Naming.exists_suffixed_of_mem_filtersOn _ _ _ filter among
        rw [made]
        exact .filter filter.column (own.1 filter among) count
      · rw [map_scalarMarker_standard] at scalar
        rcases List.mem_pair.1 (List.mem_ite_nil_right.1 scalar).2 with rfl | rfl
        · exact .pageSize
        · exact .pageNumber
    | readByKey | readByUnique | delete =>
      simp only [Conventions.shape, onRelation, kind, Shape.columns] at own
      simp only [Conventions.shape, onRelation, kind, Conventions.bound] at member
      exact ofColumns _ own member
    | insert | update =>
      simp only [Conventions.shape, onRelation, kind, Shape.columns] at own
      simp only [Conventions.shape, onRelation, kind, Conventions.bound] at member
      rw [← List.map_append] at member
      exact ofColumns _ own member

end Names

section Runs

theorem isInner_hyphen : IsInner (· == '-') where
  notBlank c blank := by
    rw [beq_eq_false_iff_ne]
    rintro rfl
    exact absurd blank (by decide)
  notPunctuation := by decide

theorem isInner_identifier : IsInner isIdentifierChar where
  notBlank c blank := by
    by_cases letter : isIdentifierChar c = true
    · rw [isBlank_of_isIdentifierChar c letter] at blank
      cases blank
    · simpa using letter
  notPunctuation := by decide

theorem eq_of_mem_runs (name : String) (letters : ∀ c ∈ name.toList, isIdentifierChar c = true)
    (run : List Char) (member : run ∈ stretches isIdentifierChar name.toList) :
    String.ofList run = name := by
  rw [eq_of_mem_stretches_of_alike name.toList run letters member, String.ofList_toList]

/-- The dot of a full name stands between the schema and the name. -/
theorem of_mem_runs_fullName (heading : Heading) (named : heading.WellNamed) (run : List Char)
    (member : run ∈ stretches isIdentifierChar heading.fullName.toList) :
    String.ofList run ∈ heading.schema ∨ String.ofList run = heading.name := by
  have plain := eq_of_mem_runs heading.name (letters_of_isIdentifier _ named.name) run
  unfold Heading.fullName at member
  split at member
  · rename_i schema present
    have chars : (schema ++ "." ++ heading.name).toList =
        schema.toList ++ '.' :: heading.name.toList := by simp
    rw [chars, stretches_append_border _ _ '.' (by decide), List.mem_append] at member
    rcases member with before | after
    · have letters := letters_of_isIdentifier schema (named.schema schema present)
      rw [eq_of_mem_runs schema letters run before]
      exact .inl present
    · exact .inr (plain after)
  · exact .inr (plain member)

theorem eq_of_mem_runs_marker (known : KnownDialect) (name : String)
    (letters : ∀ c ∈ name.toList, isIdentifierChar c = true) (run : List Char)
    (member : run ∈ stretches isIdentifierChar (known.dialect.marker name).toList) :
    String.ofList run = name := by
  have begun := stretches_append_border [] name.toList known.dialect.sigil
    (isIdentifierChar_sigil known)
  rw [stretches_nil, List.nil_append, List.nil_append] at begun
  rw [toList_marker_known, begun] at member
  exact eq_of_mem_runs name letters run member

end Runs

section Statements

variable (settings : Settings) (known : KnownDialect) (types : TypeResolver)
  (operation : Operation) (grounded : operation.IsGrounded)

include grounded

theorem letters_bound (name : String)
    (member : name ∈ (Conventions.standard settings known types).bound
      ((Conventions.standard settings known types).shape operation)) :
    ∀ c ∈ name.toList, isIdentifierChar c = true :=
  letters_of_lends grounded.valid name (lends_bound settings known types operation name member)

/-- A property of characters that identifiers, the dot and the sigil have holds of all parts of a
statement if it holds of its fixed words. -/
theorem holdsOfParts_of_chars (holds : String → Prop) (words : ∀ word ∈ fixedWords, holds word)
    (systemVariable : known = .sqlServer → holds "@@identity")
    (plain : ∀ text : String, (∀ c ∈ text.toList, isIdentifierChar c = true ∨ c = '.' ∨
      c = known.dialect.sigil) → holds text) :
    HoldsOfParts (.standard settings known types) known operation.relation
      ((Conventions.standard settings known types).shape operation) holds := by
  have named := Relation.wellNamed_of_validate grounded.valid
  have selected : ∀ column ∈ operation.relation.columns, holds column.name :=
    fun column member => plain _ fun c inside =>
      .inl (letters_of_isIdentifier column.name (named.columns column member) c inside)
  refine ⟨words, systemVariable, ?_, selected, ?_, ?_⟩
  · apply plain
    intro c member
    rcases mem_fullName operation.relation.heading c member with
      ⟨schema, present, inside⟩ | dot | inside
    · exact .inl (letters_of_isIdentifier schema (named.schema schema present) c inside)
    · exact .inr (.inl dot)
    · exact .inl (letters_of_isIdentifier _ named.name c inside)
  · intro column member
    exact selected column (columns_shape _ operation column member)
  · intro name member
    apply plain
    intro c inside
    rw [dialect_standard, toList_marker_known] at inside
    rcases List.mem_cons.1 inside with sigil | letter
    · exact .inr (.inr sigil)
    · exact .inl (letters_bound settings known types operation grounded name member c letter)

theorem all_chars :
    ((Conventions.standard settings known types).statement operation.relation
      ((Conventions.standard settings known types).shape operation)).All
      fun text => ∀ c ∈ text.toList, isStatementChar known.dialect.sigil c = true := by
  refine all_statement settings known types _ _ _ (.of_chars _ ?_) ?_
  · cases known <;> decide
  · refine holdsOfParts_of_chars settings known types operation grounded _ ?_ ?_ ?_
    · cases known <;> decide
    · rintro rfl
      decide
    · intro text plain c member
      rcases plain c member with letter | rfl | rfl
      · rw [isStatementChar, letter, Bool.true_or]
      · cases known <;> decide
      · cases known <;> decide

/-- Hyphens stand alone. -/
theorem all_hyphens :
    ((Conventions.standard settings known types).statement operation.relation
      ((Conventions.standard settings known types).shape operation)).All
      fun text => ∀ run ∈ stretches (· == '-') text.toList, run = ['-'] := by
  refine all_statement settings known types _ _ _
    (.of_reading isInner_hyphen.stretches_ignoresPunctuation (· = ['-'])) ?_
  refine holdsOfParts_of_chars settings known types operation grounded _ ?_ ?_ ?_
  · decide
  · rintro rfl
    decide
  · intro text plain
    have other : ∀ c ∈ text.toList, (c == '-') = false := by
      intro c member
      rw [beq_eq_false_iff_ne]
      rintro rfl
      rcases plain '-' member with letter | dot | sigil
      · exact absurd letter (by decide)
      · exact absurd dot (by decide)
      · cases known <;> exact absurd sigil (by decide)
    rw [stretches_of_other _ other]
    intro run member
    exact absurd member List.not_mem_nil

/-- Every run of identifier characters is a word or a name that is known. -/
theorem all_runs :
    ((Conventions.standard settings known types).statement operation.relation
      ((Conventions.standard settings known types).shape operation)).All
      fun text => ∀ run ∈ stretches isIdentifierChar text.toList,
        String.ofList run ∈ vocabulary ∨ String.ofList run ∈ operation.relation.names ++
          (Conventions.standard settings known types).bound
            ((Conventions.standard settings known types).shape operation) := by
  have named := Relation.wellNamed_of_validate grounded.valid
  have ofColumn : ∀ column ∈ operation.relation.columns,
      ∀ run ∈ stretches isIdentifierChar column.name.toList,
        String.ofList run ∈ operation.relation.names := by
    intro column among run member
    have letters := letters_of_isIdentifier column.name (named.columns column among)
    rw [eq_of_mem_runs column.name letters run member]
    exact List.mem_append_right _ (List.mem_cons_of_mem _ (List.mem_map_of_mem among))
  refine all_statement settings known types _ _ _
    (.of_reading isInner_identifier.stretches_ignoresPunctuation
      fun run => String.ofList run ∈ vocabulary ∨ String.ofList run ∈ operation.relation.names ++
        (Conventions.standard settings known types).bound
          ((Conventions.standard settings known types).shape operation)) ?_
  constructor
  case words =>
    intro word fixed run member
    have spelled : ∀ word ∈ fixedWords, ∀ run ∈ stretches isIdentifierChar word.toList,
        String.ofList run ∈ vocabulary := by decide
    exact .inl (spelled word fixed run member)
  case systemVariable =>
    rintro rfl
    have spelled : ∀ run ∈ stretches isIdentifierChar "@@identity".toList,
        String.ofList run ∈ vocabulary := by decide
    intro run member
    exact .inl (spelled run member)
  case fullName =>
    intro run member
    refine .inr (List.mem_append_left _ ?_)
    rcases of_mem_runs_fullName operation.relation.heading named run member with schema | name
    · exact List.mem_append_left _ (Option.mem_toList.2 schema)
    · exact List.mem_append_right _ (name ▸ List.mem_cons_self)
  case selected =>
    intro column among run member
    exact .inr (List.mem_append_left _ (ofColumn column among run member))
  case mentioned =>
    intro column among run member
    have own := columns_shape _ operation column among
    exact .inr (List.mem_append_left _ (ofColumn column own run member))
  case markers =>
    intro name among run member
    have letters := letters_bound settings known types operation grounded name among
    rw [dialect_standard] at member
    rw [eq_of_mem_runs_marker known name letters run member]
    exact .inr (List.mem_append_right _ among)

end Statements

/-- A text that reads as a statement is confined where the fragments of the statement are. -/
theorem confined_of_all (statement : Statement) (text : String) (allowed : Char → Bool)
    (names : List String)
    (reads : ∀ kind, IsInner kind →
      stretches kind text.toList = statement.reading (stretches kind))
    (chars : ∀ c ∈ text.toList, allowed c = true)
    (hyphens : statement.All fun fragment =>
      ∀ run ∈ stretches (· == '-') fragment.toList, run = ['-'])
    (runs : statement.All fun fragment => ∀ run ∈ stretches isIdentifierChar fragment.toList,
      String.ofList run ∈ vocabulary ∨ String.ofList run ∈ names) :
    Confined allowed names text := by
  refine ⟨chars, ?_, ?_⟩
  · intro inside
    have together : ∃ run ∈ stretches (· == '-') text.toList, ['-', '-'] <:+: run :=
      exists_stretch_of_infix text.toList ['-', '-'] (by simp) (by simp) inside
    obtain ⟨run, member, within⟩ := together
    rw [reads _ isInner_hyphen] at member
    obtain ⟨fragment, among, found⟩ := List.mem_flatMap.1 member
    rw [hyphens fragment among run found] at within
    have long := within.length_le
    simp at long
  · intro run stretch
    have member := mem_stretches_of_isStretch text.toList run stretch
    rw [reads _ isInner_identifier] at member
    obtain ⟨fragment, among, found⟩ := List.mem_flatMap.1 member
    exact runs fragment among run found

/-- Whatever schema is accepted and whatever the settings are, the texts of a method have nothing in
them but statement words, names of the relation and names of bindings, which the relation lends. -/
theorem confined_of_gives (settings : Settings) (known : KnownDialect) (types : TypeResolver)
    (schema completed : Schema) (accepted : schema.finish = .ok completed) (relation : Relation)
    (member : relation ∈ completed.relations) (method : Method)
    (given : (Synthesizer.standard settings known types).Gives relation method) :
    Confined (isStatementChar known.dialect.sigil) (relation.names ++ method.boundNames)
        method.body.sql ∧
      Confined (fun c => isStatementChar known.dialect.sigil c || c == '\n')
        (relation.names ++ method.boundNames) method.body.query.text ∧
      ∀ name ∈ method.boundNames, relation.Lends name := by
  obtain ⟨operation, rfl, validated⟩ := given.exists_validated
  have valid := Schema.validate_of_finish schema completed accepted _ member
  obtain ⟨statement, bindings, rendered, bound, carries, -⟩ :=
    Synthesizer.exists_of_synthesizeValidated _ operation method validated
  have grounded := Conventions.isGrounded_of_render _ operation statement valid rendered
  have names : method.boundNames = (Conventions.standard settings known types).bound
      ((Conventions.standard settings known types).shape operation) := by
    rw [Method.boundNames, carries.bindings]
    exact (Conventions.binds_operation _ operation grounded).names bindings bound
  have whole := Conventions.render_eq (Conventions.standard settings known types) operation grounded
  obtain rfl : (Conventions.standard settings known types).statement operation.relation
      ((Conventions.standard settings known types).shape operation) = statement := by
    rw [whole] at rendered
    exact Except.ok.inj rendered
  have chars := all_chars settings known types operation grounded
  have hyphens := all_hyphens settings known types operation grounded
  have runs := all_runs settings known types operation grounded
  rw [carries.sql, carries.query, names]
  refine ⟨confined_of_all _ _ _ _ ?_ ?_ hyphens runs, confined_of_all _ _ _ _ ?_ ?_ hyphens runs,
    fun name => lends_bound settings known types operation name⟩
  · intro kind inner
    exact read_sql inner.stretches_ignoresPunctuation.ignoresLayout _
  · intro c inside
    rcases of_mem_sql _ c inside with rfl | ⟨fragment, among, within⟩
    · simp [isStatementChar]
    · exact chars fragment among c within
  · intro kind inner
    exact read_write inner.stretches_ignoresPunctuation.toIgnoresBlanks _ _
  · intro c inside
    rcases of_mem_write _ _ c inside with rfl | rfl | ⟨fragment, among, within⟩
    · simp [isStatementChar]
    · simp
    · rw [chars fragment among c within, Bool.true_or]

/-- A schema with a description that would end a statement. -/
def describedSchema : Schema where
  tables := [{ orders with
    columns := numbered orders.columns
    description := some "'; delete from Orders --" }]

theorem confined_of_gives_orders :
    ∃ relation ∈ describedSchema.relations, ∃ method,
      describedSchema.finish = .ok describedSchema ∧
      (Synthesizer.standard {} .oracle sqlServerTypes).Gives relation method ∧
      Confined (isStatementChar ':') (relation.names ++ method.boundNames) method.body.sql := by
  have accepted : describedSchema.finish = .ok describedSchema := by decide +kernel
  have member : describedSchema.relations.head (by decide) ∈ describedSchema.relations :=
    List.head_mem _
  obtain ⟨method, synthesized⟩ := exists_eq_ok_of_toBool
    ((Synthesizer.standard {} .oracle sqlServerTypes).synthesizeOperation
      { kind := .delete, relation := describedSchema.relations.head (by decide) })
    (by decide +kernel)
  have given : (Synthesizer.standard {} .oracle sqlServerTypes).Gives
      (describedSchema.relations.head (by decide)) method := .inr ⟨_, rfl, synthesized⟩
  exact ⟨_, member, method, accepted, given,
    (confined_of_gives {} .oracle sqlServerTypes describedSchema describedSchema accepted _ member
      method given).1⟩

end DataAccess

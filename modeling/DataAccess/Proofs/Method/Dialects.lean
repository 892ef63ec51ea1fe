import DataAccess.Proofs.Method.CanonicalText
import DataAccess.Proofs.Method.Comparison
import DataAccess.Proofs.Method.Occurrences

/-!
One operation under two dialects. Up to the clause that reads an identity back the sigil stands
before placeholders and nowhere else, so the texts differ in their sigils there. Behind it they
differ in the clause, and still they have the same placeholders.
-/
set_option autoImplicit false

namespace DataAccess

namespace Sql

/-- The text with the sigil of another dialect. -/
def resigned (first second : KnownDialect) (text : String) : String :=
  text.map fun c => if c = first.dialect.sigil then second.dialect.sigil else c

/-- A text without the sigil of any dialect. -/
def IsUnsigned (text : String) : Prop :=
  ∀ c ∈ text.toList, c ≠ '@' ∧ c ≠ ':'

instance (text : String) : Decidable (IsUnsigned text) := by
  unfold IsUnsigned
  infer_instance

/-- The clause at the end of a text that reads an identity back. -/
def KnownDialect.readBack (known : KnownDialect) (column : String) : String :=
  " " ++ known.dialect.identityClause column (known.dialect.marker column)

/-- How the text under one dialect becomes the one under another: the sigils change, and so does
the clause that reads an identity back, if there is one. -/
def Translates (first second : KnownDialect) (identity : Option String) (text other : String) :
    Prop :=
  match identity with
  | none => other = resigned first second text
  | some column => ∃ body, text = body ++ first.readBack column ∧
      other = resigned first second body ++ second.readBack column

end Sql

/-- The identity that the statement of an operation reads back. -/
def Operation.identity? (operation : Operation) : Option String :=
  match operation.kind, operation.relation with
  | .insert, .table table => table.identity
  | _, _ => none

open Sql

section Texts

variable (first second : KnownDialect)

theorem resigned_append (text other : String) :
    resigned first second (text ++ other) =
      resigned first second text ++ resigned first second other := by
  simp [resigned, ← String.toList_inj]

theorem resigned_of_isUnsigned (text : String) (unsigned : IsUnsigned text) :
    resigned first second text = text := by
  have kept : ∀ c ∈ text.toList,
      (if c = first.dialect.sigil then second.dialect.sigil else c) = c := by
    intro c member
    obtain ⟨notAt, notColon⟩ := unsigned c member
    apply if_neg
    cases first with
    | sqlServer | sqlServerScoped => exact notAt
    | oracle => exact notColon
  rw [resigned, ← String.toList_inj, String.toList_map, List.map_congr_left kept, List.map_id']

theorem resigned_intercalate (separator : String) (unsigned : IsUnsigned separator)
    (items : List String) :
    resigned first second (separator.intercalate items) =
      separator.intercalate (items.map (resigned first second)) := by
  have same := resigned_of_isUnsigned first second separator unsigned
  induction items with
  | nil => simp [resigned]
  | cons item rest ih =>
    cases rest with
    | nil => simp
    | cons next rest =>
      rw [String.intercalate_cons_cons, resigned_append, resigned_append, same, ih, List.map_cons,
        List.map_cons, List.map_cons, String.intercalate_cons_cons]

theorem isUnsigned_of_letters (text : String)
    (letters : ∀ c ∈ text.toList, isIdentifierChar c = true) : IsUnsigned text := by
  intro c member
  have letter := letters c member
  constructor
  · rintro rfl
    exact absurd letter (by decide)
  · rintro rfl
    exact absurd letter (by decide)

theorem isUnsigned_fullName (relation : Relation) (named : relation.heading.WellNamed) :
    IsUnsigned relation.fullName := by
  intro c member
  rcases mem_fullName relation.heading c member with ⟨schema, present, inside⟩ | rfl | inside
  · exact isUnsigned_of_letters schema
      (letters_of_isIdentifier schema (named.schema schema present)) c inside
  · decide
  · exact isUnsigned_of_letters _ (letters_of_isIdentifier _ named.name) c inside

theorem resigned_identifier (name : String) (identifier : isIdentifier name = true) :
    resigned first second name = name :=
  resigned_of_isUnsigned first second name
    (isUnsigned_of_letters name (letters_of_isIdentifier name identifier))

theorem resigned_placeholder (name : String)
    (letters : ∀ c ∈ name.toList, isIdentifierChar c = true) :
    resigned first second (CanonicalText.placeholder first name) =
      CanonicalText.placeholder second name := by
  have same := resigned_of_isUnsigned first second name (isUnsigned_of_letters name letters)
  have sigil : resigned first second (String.singleton first.dialect.sigil) =
      String.singleton second.dialect.sigil := by
    simp [resigned, ← String.toList_inj]
  rw [CanonicalText.placeholder, resigned_append, sigil, same, CanonicalText.placeholder]

/-- What holds of each item holds of all of them as a list. -/
theorem map_resigned {α : Type} (items : List α) (before after : α → String)
    (each : ∀ item ∈ items, resigned first second (before item) = after item) :
    (items.map before).map (resigned first second) = items.map after := by
  rw [List.map_map]
  exact List.map_congr_left each

end Texts

section Clauses

variable (first second : KnownDialect)

theorem resigned_columnList (names : List String)
    (identifiers : ∀ name ∈ names, isIdentifier name = true) :
    resigned first second (CanonicalText.columnList names) = CanonicalText.columnList names := by
  have each := map_resigned first second names id id fun name member =>
    resigned_identifier first second name (identifiers name member)
  rw [List.map_id] at each
  rw [CanonicalText.columnList, resigned_intercalate first second ", " (by decide), each]

theorem resigned_selection (relation : Relation) (named : relation.heading.WellNamed) :
    resigned first second (CanonicalText.selection relation) =
      CanonicalText.selection relation := by
  have identifiers : ∀ column ∈ relation.columns, isIdentifier column.name = true := named.columns
  have columns := resigned_columnList first second (relation.columns.map (·.name))
    (List.forall_mem_map.2 identifiers)
  have name := resigned_of_isUnsigned first second _ (isUnsigned_fullName relation named)
  simp (disch := decide) only [CanonicalText.selection, resigned_append, columns, name,
    resigned_of_isUnsigned]

theorem resigned_equation (name : String) (identifier : isIdentifier name = true) :
    resigned first second (CanonicalText.equation first name) =
      CanonicalText.equation second name := by
  have marked := resigned_placeholder first second name (letters_of_isIdentifier name identifier)
  have same := resigned_identifier first second name identifier
  simp (disch := decide) only [CanonicalText.equation, resigned_append, marked, same,
    resigned_of_isUnsigned]

theorem resigned_located (names : List String)
    (identifiers : ∀ name ∈ names, isIdentifier name = true) :
    resigned first second (CanonicalText.located first names) =
      CanonicalText.located second names := by
  have each := map_resigned first second names _ _ fun name member =>
    resigned_equation first second name (identifiers name member)
  rw [CanonicalText.located, resigned_append, resigned_intercalate first second _ (by decide),
    each, resigned_of_isUnsigned first second " where " (by decide), CanonicalText.located]

theorem resigned_filtering (filters : List (String × String))
    (sound : ∀ filter ∈ filters, isIdentifier filter.1 = true ∧
      ∀ c ∈ filter.2.toList, isIdentifierChar c = true) :
    resigned first second (CanonicalText.filtering first filters) =
      CanonicalText.filtering second filters := by
  cases filters with
  | nil => simp [CanonicalText.filtering, resigned]
  | cons filter rest =>
    simp only [CanonicalText.filtering]
    rw [resigned_append, resigned_intercalate first second _ (by decide),
      resigned_of_isUnsigned first second " where " (by decide)]
    congr 2
    apply map_resigned
    rintro ⟨column, marker⟩ member
    obtain ⟨identifier, letters⟩ := sound _ member
    have marked := resigned_placeholder first second marker letters
    have same := resigned_identifier first second column identifier
    simp (disch := decide) only [resigned_append, marked, same, resigned_of_isUnsigned]

theorem resigned_paging (order : String) (identifier : isIdentifier order = true) :
    resigned first second (CanonicalText.paging first order) =
      CanonicalText.paging second order := by
  have same := resigned_identifier first second order identifier
  -- An equation for so long a text takes seconds to derive, so the definition is opened by hand.
  delta CanonicalText.paging
  simp (disch := decide) only [resigned_append, resigned_placeholder, same,
    resigned_of_isUnsigned]

theorem resigned_values (names : List String)
    (identifiers : ∀ name ∈ names, isIdentifier name = true) :
    resigned first second (CanonicalText.values first names) =
      CanonicalText.values second names := by
  cases names with
  | nil => exact resigned_of_isUnsigned first second " default values" (by decide)
  | cons name rest =>
    have columns := resigned_columnList first second (name :: rest) identifiers
    have markers := map_resigned first second (name :: rest) _ _ fun name member =>
      resigned_placeholder first second name (letters_of_isIdentifier name (identifiers name member))
    have values : resigned first second (CanonicalText.columnList
        ((name :: rest).map (CanonicalText.placeholder first))) =
        CanonicalText.columnList ((name :: rest).map (CanonicalText.placeholder second)) := by
      rw [CanonicalText.columnList, resigned_intercalate first second ", " (by decide), markers,
        CanonicalText.columnList]
    simp (disch := decide) only [CanonicalText.values, resigned_append, columns, values,
      resigned_of_isUnsigned]

end Clauses

/-- The column that a statement reads back as the identity. -/
def Shape.identity? : Shape → Option Column
  | .insert _ identity => identity
  | _ => none

section Shapes

variable (first second : KnownDialect) (relation : Relation)

/-- Without an identity that is read back only the sigils differ. -/
theorem resigned_ofShape (named : relation.heading.WellNamed) (shape : Shape)
    (sound : shape.Sound) (unread : shape.identity? = none) :
    resigned first second (CanonicalText.ofShape first relation shape) =
      CanonicalText.ofShape second relation shape := by
  have selection := resigned_selection first second relation named
  have name := resigned_of_isUnsigned first second _ (isUnsigned_fullName relation named)
  have located : ∀ key : List Column, (∀ column ∈ key, isIdentifier column.name = true) →
      resigned first second (CanonicalText.located first (key.map (·.name))) =
        CanonicalText.located second (key.map (·.name)) := fun key identifiers =>
    resigned_located first second _ (List.forall_mem_map.2 identifiers)
  cases shape with
  | rows filters order =>
    obtain ⟨terms, ordered⟩ := sound
    have filtering := resigned_filtering first second
      (filters.map fun filter => (filter.column.name, filter.marker))
      (List.forall_mem_map.2 terms)
    cases order with
    | none =>
      simp (disch := decide) only [CanonicalText.ofShape, resigned_append, selection, filtering,
        resigned_of_isUnsigned]
    | some column =>
      have paging := resigned_paging first second column.name (ordered column rfl)
      simp only [CanonicalText.ofShape, resigned_append, selection, filtering, paging]
  | whole => exact selection
  | call parameters =>
    have markers := map_resigned first second parameters _ _ fun parameter member =>
      resigned_placeholder first second parameter.name
        (letters_of_isIdentifier _ (sound parameter member))
    simp (disch := decide) only [CanonicalText.ofShape, CanonicalText.columnList, resigned_append,
      selection, resigned_intercalate, markers, resigned_of_isUnsigned]
  | lookup key =>
    simp only [CanonicalText.ofShape, resigned_append, selection, located key sound]
  | insert columns identity =>
    obtain rfl : identity = none := unread
    have values := resigned_values first second (columns.map (·.name))
      (List.forall_mem_map.2 sound.1)
    simp (disch := decide) only [CanonicalText.ofShape, resigned_append, name, values,
      resigned_of_isUnsigned]
  | update written key =>
    have equations := map_resigned first second
      ((if written.isEmpty then key else written).map (·.name)) _ _ <|
      List.forall_mem_map.2 fun column member =>
        resigned_equation first second column.name (sound.assigned column member)
    simp (disch := decide) only [CanonicalText.ofShape, CanonicalText.columnList, resigned_append,
      name, resigned_intercalate, equations, located key sound.2, resigned_of_isUnsigned]
  | delete key =>
    simp (disch := decide) only [CanonicalText.ofShape, resigned_append, name, located key sound,
      resigned_of_isUnsigned]

theorem translates_ofShape (named : relation.heading.WellNamed) (shape : Shape)
    (sound : shape.Sound) :
    Translates first second (shape.identity?.map (·.name))
      (CanonicalText.ofShape first relation shape)
      (CanonicalText.ofShape second relation shape) := by
  cases shape with
  | insert columns identity =>
    cases identity with
    | none => exact (resigned_ofShape first second relation named _ sound rfl).symm
    | some column =>
      -- What stands before the clause is the text of an insert that reads nothing back.
      have unread : (Shape.insert columns none).Sound := ⟨sound.1, fun _ absent => by cases absent⟩
      have same := resigned_ofShape first second relation named _ unread rfl
      have behind : ∀ known, CanonicalText.ofShape known relation (.insert columns (some column)) =
          CanonicalText.ofShape known relation (.insert columns none) ++
            known.readBack column.name := by
        intro known
        simp only [CanonicalText.ofShape, String.append_empty, identity_eq]
        rfl
      refine ⟨_, behind first, ?_⟩
      rw [behind second, same]
  | rows | whole | call | lookup | update | delete =>
    exact (resigned_ofShape first second relation named _ sound rfl).symm

end Shapes

theorem identity_shape (conventions : Conventions) (operation : Operation)
    (grounded : operation.IsGrounded) :
    (conventions.shape operation).identity?.map (·.name) = operation.identity? := by
  cases onRelation : operation.relation with
  | view view | function function =>
    have kind := grounded.readAll (by rw [onRelation]; rfl)
    simp only [Conventions.shape, onRelation, Operation.identity?, kind, Shape.identity?,
      Option.map_none]
  | table table =>
    have keyed := grounded.wellKeyed onRelation
    cases kind : operation.kind with
    | insert =>
      simp only [Conventions.shape, onRelation, kind, Shape.identity?, Operation.identity?,
        keyed.map_name_identityColumn?]
    | readAll | readByKey | readByUnique | update | delete =>
      simp only [Conventions.shape, onRelation, kind, Shape.identity?, Operation.identity?,
        Option.map_none]

section Operations

variable (settings : Settings) (types : TypeResolver) (first second : KnownDialect)

/-- The statements that an operation has under two dialects. -/
theorem agree_render (operation : Operation) (planned : operation.IsPlanned) :
    Agree (fun statement other =>
        placeholders other.sql second.dialect.sigil =
          placeholders statement.sql first.dialect.sigil ∧
        Translates first second operation.identity? statement.sql other.sql)
      ((Conventions.standard settings first types).render operation)
      ((Conventions.standard settings second types).render operation) := by
  have grounded := planned.grounded
  have named := Relation.wellNamed_of_validate planned.valid
  have sound := sound_shape settings first types operation grounded
  have located := located_shape (Conventions.standard settings first types) operation planned
  rw [Conventions.render_eq _ operation grounded, Conventions.render_eq _ operation grounded]
  refine .ok ⟨?_, ?_⟩
  · have ofFirst := placeholders_statement settings first types operation.relation named _ sound
    have ofSecond := placeholders_statement settings second types operation.relation named _ sound
    rw [ofFirst]
    exact ofSecond
  · have ofFirst := (spells_shape settings first types operation.relation named _ sound
      located).sql_eq
    have ofSecond := (spells_shape settings second types operation.relation named _ sound
      located).sql_eq
    have translated := translates_ofShape first second operation.relation named _ sound
    rw [identity_shape _ operation grounded, ← ofFirst, ← ofSecond] at translated
    exact translated

/-- Under two dialects an operation that its relation supports comes to the same error, or to
methods that differ in the dialect of their texts only. -/
theorem agree_dialects (relation : Relation) (operation : Operation) (given : GenerationSettings)
    (valid : relation.validate = .ok ()) (member : operation ∈ relation.plan given) :
    Agree (fun method other => method.Alike other ∧
        Translates first second operation.identity? method.body.sql other.body.sql)
      ((Synthesizer.standard settings first types).synthesizeOperation operation)
      ((Synthesizer.standard settings second types).synthesizeOperation operation) := by
  have planned := isPlanned_of_mem_plan relation valid member
  have rendered := agree_render settings types first second operation planned
  unfold Synthesizer.synthesizeOperation
  apply agree_bind
  rintro ⟨⟩
  have validated := (Synthesizer.standard settings first types).agree_synthesizeValidated
    second.dialect operation operation.settings.renderStrategy _ rendered
    (fun statement other same => same.1)
  apply validated.imp
  rintro method other ⟨alike, statement, text, bindings, ⟨-, translated⟩, carries, others⟩
  refine ⟨alike, ?_⟩
  rw [carries.sql, others.sql]
  exact translated

theorem agree_dialects_orders :
    ∃ method other,
      (Synthesizer.standard {} .sqlServer sqlServerTypes).synthesizeOperation
          { kind := .insert, relation := .table orders } = .ok method ∧
      (Synthesizer.standard {} .oracle sqlServerTypes).synthesizeOperation
          { kind := .insert, relation := .table orders } = .ok other ∧
      method.Alike other ∧
      method.body.sql = "insert into shop.Orders (CustomerId, Note) " ++
        "values (@CustomerId, @Note) select @Id = @@identity" ∧
      other.body.sql = "insert into shop.Orders (CustomerId, Note) " ++
        "values (:CustomerId, :Note) returning Id into :Id" := by
  obtain ⟨method, synthesized, text⟩ := exists_eq_ok_of_any
    ((Synthesizer.standard {} .sqlServer sqlServerTypes).synthesizeOperation
      { kind := .insert, relation := .table orders })
    (fun method => method.body.sql == "insert into shop.Orders (CustomerId, Note) " ++
        "values (@CustomerId, @Note) select @Id = @@identity") (by decide +kernel)
  have agree := agree_dialects {} sqlServerTypes .sqlServer .oracle (.table orders)
    { kind := .insert, relation := .table orders } {} validate_orders (by decide +kernel)
  obtain ⟨other, resynthesized, alike, body, cut, translated⟩ := agree.exists_of_ok synthesized
  have spelled := beq_iff_eq.1 text
  refine ⟨method, other, synthesized, resynthesized, alike, spelled, ?_⟩
  have ends : "insert into shop.Orders (CustomerId, Note) values (@CustomerId, @Note)" ++
      KnownDialect.sqlServer.readBack "Id" = method.body.sql := by
    rw [spelled]
    decide +kernel
  rw [translated, ← (String.append_left_inj _).1 (ends.trans cut)]
  decide +kernel

end Operations

end DataAccess

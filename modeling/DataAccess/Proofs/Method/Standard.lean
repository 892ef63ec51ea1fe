import DataAccess.Proofs.Method.Filters
import DataAccess.Proofs.Method.Shapes
import DataAccess.Synthesis

/-!
The conventions that come with the program: the default naming under one of the known dialects. In
the shape of an operation on a valid relation every name is then made of identifier characters.
-/
set_option autoImplicit false

namespace DataAccess

open Sql

/-- A synthesizer with the default naming and a known dialect. -/
def Synthesizer.standard (settings : Settings) (known : KnownDialect) (types : TypeResolver) :
    Synthesizer where
  settings := settings
  dialect := known.dialect
  types := types
  naming := defaultNaming

/-- The conventions of such a synthesizer. -/
abbrev Conventions.standard (settings : Settings) (known : KnownDialect)
    (types : TypeResolver) : Conventions :=
  (Synthesizer.standard settings known types).conventions

section Names

variable (settings : Settings) (known : KnownDialect) (types : TypeResolver)

@[simp] theorem dialect_standard :
    (Conventions.standard settings known types).dialect = known.dialect := rfl

@[simp] theorem columnMarker_standard (column : Column) :
    (Conventions.standard settings known types).columnMarker column =
      known.dialect.marker column.name := rfl

@[simp] theorem scalarMarker_standard (name : String) :
    (Conventions.standard settings known types).scalarMarker name =
      known.dialect.marker (Casing.camel name) := rfl

theorem camel_pageSizeName : Casing.camel pageSizeName = "pageSize" := by decide +kernel

theorem camel_pageNumberName : Casing.camel pageNumberName = "pageNumber" := by decide +kernel

theorem map_scalarMarker_standard :
    [pageSizeName, pageNumberName].map
        (Conventions.standard settings known types).naming.scalarMarker =
      ["pageSize", "pageNumber"] := by
  have names : [pageSizeName, pageNumberName].map
      (Conventions.standard settings known types).naming.scalarMarker =
      [Casing.camel pageSizeName, Casing.camel pageNumberName] := rfl
  rw [names, camel_pageSizeName, camel_pageNumberName]

end Names

section Sigil

variable (known : KnownDialect)

theorem marker_known (name : String) :
    known.dialect.marker name = String.singleton known.dialect.sigil ++ name := by
  cases known <;> rfl

theorem toList_marker_known (name : String) :
    (known.dialect.marker name).toList = known.dialect.sigil :: name.toList := by
  rw [marker_known]
  simp

theorem isIdentifierChar_sigil : isIdentifierChar known.dialect.sigil = false := by
  cases known <;> decide

end Sigil

/-- A shape whose names can stand in statement text. -/
def Shape.Sound : Shape → Prop
  | .rows filters order =>
    (∀ filter ∈ filters, isIdentifier filter.column.name = true ∧
      ∀ c ∈ filter.marker.toList, isIdentifierChar c = true) ∧
    ∀ column ∈ order, isIdentifier column.name = true
  | .whole => True
  | .call parameters => ∀ parameter ∈ parameters, isIdentifier parameter.name = true
  | .lookup key | .delete key => ∀ column ∈ key, isIdentifier column.name = true
  | .insert columns identity =>
    (∀ column ∈ columns, isIdentifier column.name = true) ∧
      ∀ column ∈ identity, isIdentifier column.name = true
  | .update written key =>
    (∀ column ∈ written, isIdentifier column.name = true) ∧
      ∀ column ∈ key, isIdentifier column.name = true

/-- What an update assigns, be it the key. -/
theorem Shape.Sound.assigned {written key : List Column} (sound : (Shape.update written key).Sound) :
    ∀ column ∈ if written.isEmpty then key else written, isIdentifier column.name = true := by
  obtain ⟨free, keyed⟩ := sound
  split
  · exact keyed
  · exact free

/-- A shape whose rows are looked up by something. -/
def Shape.Located : Shape → Prop
  | .lookup key | .delete key | .update _ key => key ≠ []
  | _ => True

section Columns

variable {table : Table}

theorem isIdentifier_of_mem_columnsNamed (named : table.toHeading.WellNamed)
    (names : List String) :
    ∀ column ∈ table.columnsNamed names, isIdentifier column.name = true := by
  intro column member
  exact named.columns column (Table.mem_columns_of_mem_columnsNamed names column member).1

theorem mem_columns_of_identityColumn? (column : Column)
    (identity : table.identityColumn? = some column) : column ∈ table.columns := by
  obtain ⟨name, -, found⟩ := (Table.identityColumn?_eq_some_iff column).1 identity
  exact (Table.of_findColumn? name column found).1

/-- Every column that a statement mentions is one of its relation. -/
theorem columns_shape (conventions : Conventions) (operation : Operation) (column : Column)
    (member : column ∈ (conventions.shape operation).columns) :
    column ∈ operation.relation.columns := by
  cases onRelation : operation.relation with
  | view view => simp [Conventions.shape, onRelation, Shape.columns] at member
  | function function => simp [Conventions.shape, onRelation, Shape.columns] at member
  | table table =>
    have ofNamed : ∀ names, column ∈ table.columnsNamed names → column ∈ table.columns :=
      fun names among => (Table.mem_columns_of_mem_columnsNamed names column among).1
    show column ∈ table.columns
    cases kind : operation.kind with
    | readAll =>
      simp only [Conventions.shape, onRelation, kind, Shape.columns, List.mem_append,
        Naming.map_column_filtersOn, Option.mem_toList] at member
      rcases member with filtered | ordered
      · exact ofNamed _ filtered
      · split at ordered
        · exact List.mem_of_head? ordered
        · cases ordered
    | insert =>
      simp only [Conventions.shape, onRelation, kind, Shape.columns, List.mem_append,
        Option.mem_toList] at member
      rcases member with written | identity
      · exact List.mem_of_mem_filter written
      · exact mem_columns_of_identityColumn? column identity
    | readByKey | readByUnique | delete =>
      simp only [Conventions.shape, onRelation, kind, Shape.columns] at member
      exact ofNamed _ member
    | update =>
      simp only [Conventions.shape, onRelation, kind, Shape.columns, List.mem_append] at member
      rcases member with written | key
      · exact List.mem_of_mem_filter written
      · exact ofNamed _ key

end Columns

theorem sound_shape (settings : Settings) (known : KnownDialect) (types : TypeResolver)
    (operation : Operation) (grounded : operation.IsGrounded) :
    ((Conventions.standard settings known types).shape operation).Sound := by
  have valid := grounded.valid
  have named := Relation.wellNamed_of_validate valid
  have identifiers : ∀ column ∈
      ((Conventions.standard settings known types).shape operation).columns,
      isIdentifier column.name = true := fun column member =>
    named.columns column (columns_shape _ operation column member)
  cases onRelation : operation.relation with
  | view view => simp only [Conventions.shape, onRelation, Shape.Sound]
  | function function =>
    rw [onRelation] at valid
    simpa only [Conventions.shape, onRelation, Shape.Sound] using
      Relation.parameters_of_validate valid
  | table table =>
    cases kind : operation.kind with
    | readAll =>
      simp only [Conventions.shape, onRelation, kind, Shape.columns, List.forall_mem_append,
        List.forall_mem_map, Option.mem_toList] at identifiers
      obtain ⟨filtered, ordered⟩ := identifiers
      simp only [Conventions.shape, onRelation, kind, Shape.Sound]
      refine ⟨fun filter member => ⟨filtered filter member, ?_⟩, ordered⟩
      rw [onRelation] at named
      exact letters_of_mem_marker _ table.filtered (isIdentifier_of_mem_columnsNamed named _)
        filter member
    | insert | update =>
      simpa only [Conventions.shape, onRelation, kind, Shape.Sound, Shape.columns,
        List.forall_mem_append, Option.mem_toList, Option.mem_def] using identifiers
    | readByKey | readByUnique | delete =>
      simpa only [Conventions.shape, onRelation, kind, Shape.Sound, Shape.columns]
        using identifiers

theorem located_shape (conventions : Conventions) (operation : Operation)
    (planned : operation.IsPlanned) : (conventions.shape operation).Located := by
  cases onRelation : operation.relation with
  | view view => simp only [Conventions.shape, onRelation, Shape.Located]
  | function function => simp only [Conventions.shape, onRelation, Shape.Located]
  | table table =>
    have has := planned.grounded.has table onRelation
    cases kind : operation.kind with
    | readAll | insert => simp only [Conventions.shape, onRelation, kind, Shape.Located]
    | readByKey | readByUnique | delete | update =>
      have filled := planned.lookupNames_ne_nil onRelation (by rw [kind]; decide)
        (by rw [kind]; decide)
      simp only [Conventions.shape, onRelation, kind, Shape.Located]
      exact Table.columnsNamed_ne_nil _ filled has

end DataAccess

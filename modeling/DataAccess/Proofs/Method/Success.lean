import DataAccess.Proofs.Method.Occurrences

/-!
When synthesis succeeds. With the default naming and a known dialect the placeholders of every
planned statement are its bindings, unless a name is bound twice or is empty; all else that can go
wrong is a type that is not known.
-/
set_option autoImplicit false

namespace DataAccess

open Sql

/-- Names that can be told apart by their placeholders. -/
def Separable (names : List String) : Prop :=
  names.Nodup ∧ "" ∉ names

theorem distinct_filled_eq_iff (names : List String) :
    distinct (filled names) = names ↔ Separable names := by
  constructor
  · intro same
    constructor
    · rw [← same]
      exact nodup_distinct _
    · intro empty
      rw [← same, mem_distinct, filled, List.mem_filter] at empty
      simp at empty
  · rintro ⟨nodup, notEmpty⟩
    have all : filled names = names := by
      apply List.filter_eq_self.2
      intro name member
      rw [decide_eq_true_eq]
      rintro rfl
      exact notEmpty member
    rw [all, distinct_of_nodup names nodup]

section Operation

variable (settings : Settings) (known : KnownDialect) (types : TypeResolver)
variable (operation : Operation)

/-- The names that an operation is bound to. -/
def boundNames (settings : Settings) (known : KnownDialect) (types : TypeResolver)
    (operation : Operation) : List String :=
  (Conventions.standard settings known types).bound
    ((Conventions.standard settings known types).shape operation)

/-- What a planned operation comes to before its placeholders are checked. -/
theorem synthesizeValidated_eq (planned : operation.IsPlanned) :
    (Synthesizer.standard settings known types).synthesizeValidated operation =
      ((Conventions.standard settings known types).bind operation >>= fun bindings =>
        (Conventions.standard settings known types).assemble operation
          ((Conventions.standard settings known types).statement operation.relation
            ((Conventions.standard settings known types).shape operation)) bindings) >>=
        fun method => (Synthesizer.standard settings known types).verify method >>= fun _ =>
          pure method := by
  rw [Synthesizer.synthesizeValidated,
    (Conventions.standard settings known types).render_eq operation planned.grounded, ok_bind]
  cases (Conventions.standard settings known types).bind operation <;> rfl

/-- A method of a planned operation has the names that the operation is bound to, and in its text
those that are not empty, each once. -/
theorem verify_method (planned : operation.IsPlanned) (method : Method)
    (made : ((Conventions.standard settings known types).bind operation >>= fun bindings =>
        (Conventions.standard settings known types).assemble operation
          ((Conventions.standard settings known types).statement operation.relation
            ((Conventions.standard settings known types).shape operation)) bindings) =
      .ok method) :
    (Synthesizer.standard settings known types).verify method =
      if distinct (filled (boundNames settings known types operation)) =
          boundNames settings known types operation then .ok ()
      else .error (.bindingMismatch
        (defaultNaming.method operation.relation operation.kind operation.unique)
        (distinct (filled (boundNames settings known types operation)))
        (boundNames settings known types operation)) := by
  obtain ⟨bindings, reached, assembled⟩ := (bind_eq_ok_iff _ _ _).1 made
  have carries := Conventions.carries_of_assemble _ _ _ _ _ assembled
  have name := Conventions.name_of_assemble _ _ _ _ _ assembled
  have named := Relation.wellNamed_of_validate planned.valid
  have sound := sound_shape settings known types operation planned.grounded
  have bound : method.body.bindings.map (·.name) = boundNames settings known types operation := by
    rw [carries.bindings]
    have binds := (Conventions.standard settings known types).binds_operation operation
      planned.grounded
    exact binds.names bindings reached
  have found : placeholders method.body.query.normalized known.dialect.sigil =
      distinct (filled (boundNames settings known types operation)) := by
    rw [carries.query, normalized_write, placeholders_statement settings known types
      operation.relation named _ sound]
    rfl
  have sigil : (Synthesizer.standard settings known types).dialect.sigil =
      known.dialect.sigil := rfl
  rw [Synthesizer.verify, sigil, found, bound, name]
  rfl

/-- One operation has a method if all types are known and no name is bound twice or is empty. -/
theorem exists_method_iff (planned : operation.IsPlanned) :
    (∃ method, (Synthesizer.standard settings known types).synthesizeValidated operation =
      .ok method) ↔
      types.Knows ((Conventions.standard settings known types).needed operation) ∧
        Separable (boundNames settings known types operation) := by
  have needs := (Conventions.standard settings known types).needs_method operation planned.grounded
    ((Conventions.standard settings known types).statement operation.relation
      ((Conventions.standard settings known types).shape operation))
  rw [synthesizeValidated_eq settings known types operation planned]
  constructor
  · rintro ⟨method, success⟩
    obtain ⟨made, assembled, checked⟩ := (bind_eq_ok_iff _ _ _).1 success
    obtain ⟨_, verified, -⟩ := (bind_eq_ok_iff _ _ _).1 checked
    rw [verify_method settings known types operation planned made assembled] at verified
    refine ⟨needs.known made assembled, (distinct_filled_eq_iff _).1 ?_⟩
    by_contra different
    rw [if_neg different] at verified
    cases verified
  · rintro ⟨knows, separable⟩
    obtain ⟨method, made⟩ := needs.exists_value knows
    refine ⟨method, ?_⟩
    rw [made, ok_bind, verify_method settings known types operation planned method made,
      if_pos ((distinct_filled_eq_iff _).2 separable)]
    rfl

/-- Without a method there is a type that is not known, or the bindings cannot be told apart. -/
theorem error_of_synthesizeValidated (planned : operation.IsPlanned) (failure : Error)
    (failed : (Synthesizer.standard settings known types).synthesizeValidated operation =
      .error failure) :
    (∃ entry ∈ (Conventions.standard settings known types).needed operation,
      types entry.2 = none ∧
        failure = .unresolvedType operation.relation.fullName entry.1 entry.2) ∨
    ∃ bindings, (Conventions.standard settings known types).bind operation = .ok bindings ∧
      ¬ Separable (bindings.map (·.name)) ∧
      failure = .bindingMismatch
        (defaultNaming.method operation.relation operation.kind operation.unique)
        (distinct (filled (bindings.map (·.name)))) (bindings.map (·.name)) := by
  have needs := (Conventions.standard settings known types).needs_method operation planned.grounded
    ((Conventions.standard settings known types).statement operation.relation
      ((Conventions.standard settings known types).shape operation))
  rw [synthesizeValidated_eq settings known types operation planned] at failed
  rcases (bind_eq_error_iff _ _ _).1 failed with unmade | ⟨method, made, refused⟩
  · exact .inl (needs.unknown failure unmade)
  · obtain ⟨bindings, reached, -⟩ := (bind_eq_ok_iff _ _ _).1 made
    have names : bindings.map (·.name) = boundNames settings known types operation :=
      ((Conventions.standard settings known types).binds_operation operation planned.grounded).names
        bindings reached
    rcases (bind_eq_error_iff _ _ _).1 refused with mismatch | ⟨_, -, impossible⟩
    · right
      rw [verify_method settings known types operation planned method made] at mismatch
      rw [← names] at mismatch
      split at mismatch
      · cases mismatch
      · rename_i different
        cases mismatch
        exact ⟨bindings, reached,
          fun separable => different ((distinct_filled_eq_iff _).2 separable), rfl⟩
    · exact absurd impossible (pure_ne_error _ _)

end Operation

/-- An operation on a table. -/
def Table.operation (table : Table) (settings : GenerationSettings) (kind : OperationKind)
    (unique : Option Unique) : Operation where
  kind := kind
  relation := .table table
  unique := unique
  settings := settings

/-- What holds of all operations on a table, one by one. -/
theorem forall_mem_plan_iff (table : Table) (settings : GenerationSettings)
    (P : Operation → Prop) :
    (∀ operation ∈ (Relation.table table).plan settings, P operation) ↔
      P (table.operation settings .readAll none) ∧ P (table.operation settings .insert none) ∧
      (table.primaryKey.isSome = true → P (table.operation settings .readByKey none) ∧
        P (table.operation settings .update none) ∧ P (table.operation settings .delete none)) ∧
      ∀ unique ∈ table.uniques, P (table.operation settings .readByUnique (some unique)) := by
  have plan : ∀ kind unique, table.operation settings kind unique ∈
      (Relation.table table).plan settings ↔ (kind, unique) ∈ table.operations := by
    intro kind unique
    rw [mem_plan_table_iff]
    exact ⟨fun ⟨_, _, member⟩ => member, fun member => ⟨rfl, rfl, member⟩⟩
  constructor
  · intro all
    have each : ∀ kind unique, (kind, unique) ∈ table.operations →
        P (table.operation settings kind unique) :=
      fun kind unique member => all _ ((plan kind unique).2 member)
    simp only [mem_operations_iff] at each
    refine ⟨each _ _ (by simp), each _ _ (by simp), fun keyed => ?_, fun unique member => ?_⟩
    · exact ⟨each _ _ (by simp [keyed]), each _ _ (by simp [keyed]), each _ _ (by simp [keyed])⟩
    · exact each _ _ (.inr ⟨unique, member, rfl, rfl⟩)
  · rintro ⟨readAll, insert, keyed, uniques⟩ operation member
    obtain ⟨onTable, given, listed⟩ := (mem_plan_table_iff table).1 member
    have same : operation = table.operation settings operation.kind operation.unique := by
      rw [Table.operation, ← onTable, ← given]
    rw [same]
    rcases (mem_operations_iff table _ _).1 listed with ⟨none, kind⟩ | ⟨unique, among, kind, some⟩
    · rw [none]
      rcases kind with kind | kind | ⟨isKeyed, kind | kind | kind⟩ <;> rw [kind]
      · exact readAll
      · exact insert
      · exact (keyed isKeyed).1
      · exact (keyed isKeyed).2.1
      · exact (keyed isKeyed).2.2
    · rw [kind, some]
      exact uniques unique among

theorem knows_typed_iff (types : TypeResolver) (columns : List Column) :
    types.Knows (typed columns) ↔
      ∀ column ∈ columns, (types column.declaredType).isSome = true := by
  simp [TypeResolver.Knows, typed]

theorem knows_append_iff (types : TypeResolver) (first second : List (String × String)) :
    types.Knows (first ++ second) ↔ types.Knows first ∧ types.Knows second := by
  simp only [TypeResolver.Knows, List.mem_append, or_imp, forall_and]

theorem separable_of_identifiers_iff (names : List String)
    (identifiers : ∀ name ∈ names, isIdentifier name = true) : Separable names ↔ names.Nodup := by
  refine ⟨fun separable => separable.1, fun nodup => ⟨nodup, fun empty => ?_⟩⟩
  exact filled_of_isIdentifier "" (identifiers "" empty) rfl

section Tables

variable (settings : Settings) (known : KnownDialect) (types : TypeResolver) {table : Table}

/-- All types of an operation are known and its names can be told apart. -/
def Fits (operation : Operation) : Prop :=
  types.Knows ((Conventions.standard settings known types).needed operation) ∧
    Separable (boundNames settings known types operation)

theorem needed_readAll (given : GenerationSettings) :
    (Conventions.standard settings known types).needed (table.operation given .readAll none) =
      typed table.filtered := by
  have columns := defaultNaming.map_column_filtersOn (defaultNaming.pagingNames given.paging)
    table.filtered
  have shape : (Conventions.standard settings known types).needed
      (table.operation given .readAll none) =
      (defaultNaming.filtersOn (defaultNaming.pagingNames given.paging) table.filtered).map
        (fun filter => (filter.column.name, filter.column.declaredType)) ++ [] := rfl
  rw [shape, List.append_nil, ← columns, typed, List.map_map, columns]
  rfl

theorem boundNames_readAll (named : table.toHeading.WellNamed) (given : GenerationSettings) :
    boundNames settings known types (table.operation given .readAll none) =
      (defaultNaming.filtersOn (defaultNaming.pagingNames given.paging) table.filtered).map
        (·.marker) ++ if given.paging then ["pageSize", "pageNumber"] else [] := by
  obtain ⟨first, rest, columns⟩ := List.exists_cons_of_ne_nil named.filled
  have shape : boundNames settings known types (table.operation given .readAll none) =
      (defaultNaming.filtersOn (defaultNaming.pagingNames given.paging) table.filtered).map
        (·.marker) ++ if (if given.paging then table.columns.head? else none).isSome then
          [Casing.camel pageSizeName, Casing.camel pageNumberName] else [] := rfl
  rw [shape, columns, camel_pageSizeName, camel_pageNumberName]
  cases given.paging <;> rfl

/-- A query of all rows fits if the types of its filters are known and each filter has a name:
filters are named apart from each other and from the paging scalars. -/
theorem fits_readAll_iff (named : table.toHeading.WellNamed) (given : GenerationSettings) :
    Fits settings known types (table.operation given .readAll none) ↔
      (∀ column ∈ table.filtered, (types column.declaredType).isSome = true) ∧
        ∀ column ∈ table.filtered, ∃ c ∈ column.name.toList, c ≠ '_' := by
  have taken : "" ∉ defaultNaming.pagingNames given.paging := by
    cases given.paging <;> decide
  have fresh := defaultNaming.filtersOn_fresh (defaultNaming.pagingNames given.paging)
    table.filtered
  have nodup := defaultNaming.nodup_markers (defaultNaming.pagingNames given.paging)
    table.filtered
  have empty := empty_mem_markers_iff (defaultNaming.pagingNames given.paging) table.filtered taken
  have scalars : ∀ name ∈ (if given.paging then ["pageSize", "pageNumber"] else []),
      name ∈ defaultNaming.pagingNames given.paging := by
    cases given.paging <;> decide
  have distinctScalars : (if given.paging then ["pageSize", "pageNumber"] else []).Nodup := by
    cases given.paging <;> decide
  have apart : ((defaultNaming.filtersOn (defaultNaming.pagingNames given.paging)
      table.filtered).map (·.marker) ++
        if given.paging then ["pageSize", "pageNumber"] else []).Nodup := by
    refine List.nodup_append.2 ⟨nodup, distinctScalars, ?_⟩
    rintro marker member scalar among rfl
    obtain ⟨filter, inside, rfl⟩ := List.mem_map.1 member
    exact (fresh filter inside).1 (scalars _ among)
  have named' : ∀ column ∈ table.filtered, (Casing.camel column.name = "" ↔
      ¬ ∃ c ∈ column.name.toList, c ≠ '_') := by
    intro column member
    have identifier := isIdentifier_of_mem_columnsNamed named _ column member
    rw [camel_eq_empty_iff column.name identifier]
    simp only [ne_eq, not_exists, not_and, not_not]
  rw [Fits, needed_readAll, boundNames_readAll settings known types named, knows_typed_iff,
    Separable, List.mem_append, empty]
  refine and_congr_right fun _ => ?_
  constructor
  · rintro ⟨-, notEmpty⟩ column member
    by_contra blank
    exact notEmpty (.inl ⟨column, member, (named' column member).2 blank⟩)
  · intro lettered
    refine ⟨apart, ?_⟩
    rintro (⟨column, member, blank⟩ | scalar)
    · exact (named' column member).1 blank (lettered column member)
    · exact taken (scalars _ scalar)

theorem isIdentifier_of_mem_names (columns : List Column)
    (identifiers : ∀ column ∈ columns, isIdentifier column.name = true) :
    ∀ name ∈ columns.map (·.name), isIdentifier name = true := by
  intro name member
  obtain ⟨column, inside, rfl⟩ := List.mem_map.1 member
  exact identifiers column inside

/-- A lookup, or a removal, fits if its columns are of known types and named once. -/
theorem fits_located_iff (named : table.toHeading.WellNamed) (operation : Operation)
    (onTable : operation.relation = .table table)
    (kind : operation.kind = .readByKey ∨ operation.kind = .readByUnique ∨
      operation.kind = .delete)
    (has : table.Has (operation.lookupNames table)) :
    Fits settings known types operation ↔
      (∀ column ∈ table.columnsNamed (operation.lookupNames table),
        (types column.declaredType).isSome = true) ∧ (operation.lookupNames table).Nodup := by
  have names := Table.map_name_columnsNamed _ has
  have identifiers := isIdentifier_of_mem_names _
    (isIdentifier_of_mem_columnsNamed named (operation.lookupNames table))
  have needed : (Conventions.standard settings known types).needed operation =
      typed (table.columnsNamed (operation.lookupNames table)) := by
    rcases kind with kind | kind | kind <;>
      simp [Conventions.needed, Conventions.shape, onTable, kind, Shape.typed]
  have bound : boundNames settings known types operation =
      (table.columnsNamed (operation.lookupNames table)).map (·.name) := by
    rcases kind with kind | kind | kind <;>
      simp only [boundNames, Conventions.shape, onTable, kind, Conventions.bound] <;> rfl
  rw [Fits, needed, bound, knows_typed_iff, separable_of_identifiers_iff _ identifiers, names]

/-- The identity is not among the inserted columns. -/
theorem nodup_insert_iff :
    ((table.inserted settings.insertExclusions).map (·.name) ++
        table.identityColumn?.toList.map (·.name)).Nodup ↔
      ((table.inserted settings.insertExclusions).map (·.name)).Nodup := by
  refine ⟨fun nodup => (List.nodup_append.1 nodup).1, fun nodup => ?_⟩
  refine List.nodup_append.2 ⟨nodup, ?_, ?_⟩
  · cases table.identityColumn? <;> simp
  · rintro name written other generated rfl
    obtain ⟨column, inserted, rfl⟩ := List.mem_map.1 written
    obtain ⟨identity, isIdentity, same⟩ := List.mem_map.1 generated
    obtain ⟨name, declared, found⟩ := (Table.identityColumn?_eq_some_iff identity).1
      (by simpa using isIdentity)
    have notIdentity := (List.mem_filter.1 inserted).2
    rw [← same, (Table.of_findColumn? name identity found).2, declared] at notIdentity
    simp at notIdentity

theorem fits_insert_iff (named : table.toHeading.WellNamed) (given : GenerationSettings) :
    Fits settings known types (table.operation given .insert none) ↔
      ((∀ column ∈ table.inserted settings.insertExclusions,
          (types column.declaredType).isSome = true) ∧
        (∀ column ∈ table.identityColumn?, (types column.declaredType).isSome = true) ∧
        ∀ column ∈ table.loneKey, (types column.declaredType).isSome = true) ∧
      ((table.inserted settings.insertExclusions).map (·.name)).Nodup := by
  have needed : (Conventions.standard settings known types).needed
      (table.operation given .insert none) =
      typed (table.inserted settings.insertExclusions) ++
        typed table.identityColumn?.toList ++ typed table.loneKey := rfl
  have bound : boundNames settings known types (table.operation given .insert none) =
      (table.inserted settings.insertExclusions).map (·.name) ++
        table.identityColumn?.toList.map (·.name) := rfl
  have identifiers : ∀ name ∈
      (table.inserted settings.insertExclusions).map (·.name) ++
        table.identityColumn?.toList.map (·.name), isIdentifier name = true := by
    intro name member
    rcases List.mem_append.1 member with written | generated
    · obtain ⟨column, inserted, rfl⟩ := List.mem_map.1 written
      exact named.columns column (List.mem_of_mem_filter inserted)
    · obtain ⟨column, isIdentity, rfl⟩ := List.mem_map.1 generated
      exact named.columns column (mem_columns_of_identityColumn? column (by simpa using isIdentity))
  rw [Fits, needed, bound, knows_append_iff, knows_append_iff, knows_typed_iff, knows_typed_iff,
    knows_typed_iff, separable_of_identifiers_iff _ identifiers, nodup_insert_iff]
  simp only [Option.mem_toList, Option.mem_def, and_assoc]

/-- The key is not among the updated columns. -/
theorem nodup_update_iff :
    ((table.updated settings.updateExclusions).map (·.name) ++
        table.keyNames).Nodup ↔
      table.keyNames.Nodup ∧
        ((table.updated settings.updateExclusions).map (·.name)).Nodup := by
  rw [List.nodup_append]
  refine ⟨fun ⟨written, key, _⟩ => ⟨key, written⟩, fun ⟨key, written⟩ => ⟨written, key, ?_⟩⟩
  rintro name member other inKey rfl
  obtain ⟨column, updated, rfl⟩ := List.mem_map.1 member
  have kept := (List.mem_filter.1 updated).2
  exact (decide_eq_true_iff.1 kept).1 inKey

theorem fits_update_iff (named : table.toHeading.WellNamed) (has : table.Has table.keyNames)
    (given : GenerationSettings) :
    Fits settings known types (table.operation given .update none) ↔
      ((∀ column ∈ table.updated settings.updateExclusions,
          (types column.declaredType).isSome = true) ∧
        ∀ column ∈ table.columnsNamed table.keyNames, (types column.declaredType).isSome = true) ∧
      table.keyNames.Nodup ∧
        ((table.updated settings.updateExclusions).map (·.name)).Nodup := by
  have needed : (Conventions.standard settings known types).needed
      (table.operation given .update none) =
      typed (table.updated settings.updateExclusions) ++
        typed (table.columnsNamed table.keyNames) ++ [] := rfl
  have bound : boundNames settings known types (table.operation given .update none) =
      (table.updated settings.updateExclusions).map (·.name) ++
        (table.columnsNamed table.keyNames).map (·.name) := rfl
  have identifiers : ∀ name ∈
      (table.updated settings.updateExclusions).map (·.name) ++
        (table.columnsNamed table.keyNames).map (·.name), isIdentifier name = true := by
    intro name member
    rcases List.mem_append.1 member with written | located
    · obtain ⟨column, updated, rfl⟩ := List.mem_map.1 written
      exact named.columns column (List.mem_of_mem_filter updated)
    · exact isIdentifier_of_mem_names _ (isIdentifier_of_mem_columnsNamed named _) name located
  rw [Fits, needed, bound, List.append_nil, knows_append_iff, knows_typed_iff, knows_typed_iff,
    separable_of_identifiers_iff _ identifiers, Table.map_name_columnsNamed _ has,
    nodup_update_iff]

end Tables

/-- What a table must be like for each of its methods to be made. -/
structure Conventions.Supports (conventions : Conventions) (table : Table) : Prop where
  insertTypes : ∀ column ∈ table.inserted conventions.insertExclusions,
    (conventions.types column.declaredType).isSome = true
  identityType : ∀ column ∈ table.identityColumn?,
    (conventions.types column.declaredType).isSome = true
  filterTypes : ∀ column ∈ table.filtered, (conventions.types column.declaredType).isSome = true
  uniqueTypes : ∀ unique ∈ table.uniques, ∀ column ∈ table.columnsNamed unique.columns,
    (conventions.types column.declaredType).isSome = true
  keyTypes : ∀ key ∈ table.primaryKey, ∀ column ∈ table.columnsNamed key,
    (conventions.types column.declaredType).isSome = true
  updateTypes : table.primaryKey.isSome = true →
    ∀ column ∈ table.updated conventions.updateExclusions,
      (conventions.types column.declaredType).isSome = true
  insertNames : ((table.inserted conventions.insertExclusions).map (·.name)).Nodup
  uniqueNames : ∀ unique ∈ table.uniques, unique.columns.Nodup
  keyNames : ∀ key ∈ table.primaryKey, key.Nodup
  updateNames : table.primaryKey.isSome = true →
    ((table.updated conventions.updateExclusions).map (·.name)).Nodup
  /-- A name of underscores is empty in `camelCase`. -/
  filterNames : ∀ column ∈ table.filtered, ∃ c ∈ column.name.toList, c ≠ '_'

/-- What a relation must be like for each of its methods to be made. -/
def Conventions.Accepts (conventions : Conventions) : Relation → Prop
  | .table table => conventions.Supports table
  | .view _ => True
  | .function function =>
    (∀ parameter ∈ function.parameters,
      (conventions.types parameter.declaredType).isSome = true) ∧
      (function.parameters.map (·.name)).Nodup

/-- A column or a parameter of a relation, with the type that it declares. -/
def Relation.Declares (relation : Relation) (name declared : String) : Prop :=
  (∃ column ∈ relation.columns, column.name = name ∧ column.declaredType = declared) ∨
    ∃ function, relation = .function function ∧ ∃ parameter ∈ function.parameters,
      parameter.name = name ∧ parameter.declaredType = declared

theorem mem_columnsNamed_of_mem_loneKey (table : Table) (column : Column)
    (member : column ∈ table.loneKey) : column ∈ table.columnsNamed table.keyNames := by
  unfold Table.loneKey at member
  split at member
  · rename_i only key
    split at member
    · cases member
    · rwa [key]
  · cases member

section Relations

variable (settings : Settings) (known : KnownDialect) (types : TypeResolver)

/-- The operations on a table fit if the table has what they need. -/
theorem forall_fits_iff (table : Table) (valid : (Relation.table table).validate = .ok ())
    (given : GenerationSettings) :
    (∀ operation ∈ (Relation.table table).plan given, Fits settings known types operation) ↔
      (Conventions.standard settings known types).Supports table := by
  have named : table.toHeading.WellNamed := Relation.wellNamed_of_validate valid
  have keyed := Relation.wellKeyed_of_validate valid
  have hasKey := keyed.has_keyNames
  have unique : ∀ unique ∈ table.uniques,
      (Fits settings known types (table.operation given .readByUnique (some unique)) ↔
        (∀ column ∈ table.columnsNamed unique.columns,
          (types column.declaredType).isSome = true) ∧ unique.columns.Nodup) :=
    fun unique member => fits_located_iff settings known types named
      (table.operation given .readByUnique (some unique)) rfl (.inr (.inl rfl))
      (keyed.uniques unique member).2
  rw [forall_mem_plan_iff, fits_readAll_iff settings known types named,
    fits_insert_iff settings known types named,
    fits_located_iff settings known types named (table.operation given .readByKey none) rfl
      (.inl rfl) hasKey,
    fits_update_iff settings known types named hasKey,
    fits_located_iff settings known types named (table.operation given .delete none) rfl
      (.inr (.inr rfl)) hasKey]
  have keyOf : ∀ key ∈ table.primaryKey, table.keyNames = key := by
    intro key member
    rw [Option.mem_def] at member
    rw [Table.keyNames, member, Option.getD_some]
  constructor
  · rintro ⟨⟨filterTypes, filterNames⟩, ⟨⟨insertTypes, identityType, -⟩, insertNames⟩, located,
      uniques⟩
    refine {
      insertTypes, identityType, filterTypes, insertNames, filterNames
      uniqueTypes := fun given member => ((unique given member).1 (uniques given member)).1
      uniqueNames := fun given member => ((unique given member).1 (uniques given member)).2
      updateTypes := fun isKeyed => (located isKeyed).2.1.1.1
      updateNames := fun isKeyed => (located isKeyed).2.1.2.2
      keyTypes := ?_
      keyNames := ?_ }
    · intro key member
      rw [← keyOf key member]
      exact (located (Option.isSome_of_mem member)).2.1.1.2
    · intro key member
      rw [← keyOf key member]
      exact (located (Option.isSome_of_mem member)).2.1.2.1
  · intro supports
    have keyTypes : ∀ column ∈ table.columnsNamed table.keyNames,
        (types column.declaredType).isSome = true := by
      cases key : table.primaryKey with
      | none => simp [Table.keyNames, key, Table.columnsNamed]
      | some names =>
        rw [keyOf names key]
        exact supports.keyTypes names key
    have loneTypes : ∀ column ∈ table.loneKey, (types column.declaredType).isSome = true :=
      fun column member => keyTypes column (mem_columnsNamed_of_mem_loneKey table column member)
    refine ⟨⟨supports.filterTypes, supports.filterNames⟩,
      ⟨⟨supports.insertTypes, supports.identityType, loneTypes⟩, supports.insertNames⟩, ?_, ?_⟩
    · intro isKeyed
      obtain ⟨key, present⟩ := Option.isSome_iff_exists.1 isKeyed
      have once : table.keyNames.Nodup := by
        rw [keyOf key present]
        exact supports.keyNames key present
      exact ⟨⟨keyTypes, once⟩,
        ⟨⟨supports.updateTypes isKeyed, keyTypes⟩, once, supports.updateNames isKeyed⟩,
        keyTypes, once⟩
    · intro given member
      exact (unique given member).2
        ⟨supports.uniqueTypes given member, supports.uniqueNames given member⟩

theorem declares_of_mem_typed (relation : Relation) (columns : List Column)
    (inside : ∀ column ∈ columns, column ∈ relation.columns) (entry : String × String)
    (member : entry ∈ typed columns) : relation.Declares entry.1 entry.2 := by
  obtain ⟨column, among, rfl⟩ := List.mem_map.1 member
  exact .inl ⟨column, inside column among, rfl, rfl⟩

/-- What an operation needs is declared by its relation. -/
theorem declares_of_mem_needed (operation : Operation) (planned : operation.IsPlanned)
    (entry : String × String)
    (member : entry ∈ (Conventions.standard settings known types).needed operation) :
    operation.relation.Declares entry.1 entry.2 := by
  cases onRelation : operation.relation with
  | view view =>
    simp [Conventions.needed, Conventions.shape, onRelation, Shape.typed] at member
  | function function =>
    have kind := planned.kind_eq_readAll (by rw [onRelation]; rfl)
    simp only [Conventions.needed, Conventions.shape, onRelation, kind, Shape.typed,
      List.mem_append, List.mem_map, List.not_mem_nil, or_false] at member
    obtain ⟨parameter, among, rfl⟩ := member
    exact .inr ⟨function, rfl, parameter, among, rfl, rfl⟩
  | table table =>
    have located : ∀ names, ∀ column ∈ table.columnsNamed names, column ∈ table.columns :=
      fun names column found => (Table.mem_columns_of_mem_columnsNamed names column found).1
    have kept : ∀ keep, ∀ column ∈ table.columns.filter keep, column ∈ table.columns :=
      fun keep column found => List.mem_of_mem_filter found
    have generated : ∀ column ∈ table.identityColumn?.toList, column ∈ table.columns :=
      fun column found => mem_columns_of_identityColumn? column (by simpa using found)
    have lone : ∀ column ∈ table.loneKey, column ∈ table.columns :=
      fun column found => located _ column (mem_columnsNamed_of_mem_loneKey table column found)
    have declares := declares_of_mem_typed (.table table)
    cases kind : operation.kind with
    | readAll =>
      simp only [Conventions.needed, Conventions.shape, onRelation, kind, Shape.typed,
        List.mem_append, List.mem_map, List.not_mem_nil, or_false] at member
      obtain ⟨filter, among, rfl⟩ := member
      have found := defaultNaming.column_mem_of_mem_filtersOn _ _ filter among
      exact .inl ⟨filter.column, located _ _ found, rfl, rfl⟩
    | readByKey | readByUnique | delete =>
      simp only [Conventions.needed, Conventions.shape, onRelation, kind, Shape.typed,
        List.append_nil] at member
      exact declares _ (located _) entry member
    | insert =>
      simp only [Conventions.needed, Conventions.shape, onRelation, kind, Shape.typed,
        List.mem_append] at member
      rcases member with (written | identity) | key
      · exact declares _ (kept _) entry written
      · exact declares _ generated entry identity
      · exact declares _ lone entry key
    | update =>
      simp only [Conventions.needed, Conventions.shape, onRelation, kind, Shape.typed,
        List.append_nil, List.mem_append] at member
      rcases member with written | key
      · exact declares _ (kept _) entry written
      · exact declares _ (located _) entry key

/-- The operations on a relation fit if the relation has what they need. -/
theorem forall_fits_relation_iff (relation : Relation) (valid : relation.validate = .ok ()) :
    (∀ operation ∈ (Synthesizer.standard settings known types).plan relation,
      Fits settings known types operation) ↔
      (Conventions.standard settings known types).Accepts relation := by
  cases relation with
  | table table => exact forall_fits_iff settings known types table valid _
  | view view =>
    have identifiers : ∀ name ∈ ([] : List String), isIdentifier name = true := by simp
    refine iff_of_true (fun operation member => ?_) trivial
    rw [List.mem_singleton.1 member]
    exact ⟨by simp [Conventions.needed, Conventions.shape, Shape.typed, TypeResolver.Knows],
      (separable_of_identifiers_iff [] identifiers).2 .nil⟩
  | function function =>
    have identifiers : ∀ name ∈ function.parameters.map (·.name), isIdentifier name = true := by
      intro name member
      obtain ⟨parameter, among, rfl⟩ := List.mem_map.1 member
      exact Relation.parameters_of_validate valid parameter among
    have single : ∀ operation ∈ (Synthesizer.standard settings known types).plan
        (.function function), Fits settings known types operation ↔
        (Conventions.standard settings known types).Accepts (.function function) := by
      intro operation member
      rw [List.mem_singleton.1 member]
      refine and_congr ?_ (separable_of_identifiers_iff _ identifiers)
      simp only [Conventions.needed, Conventions.shape, Shape.typed, TypeResolver.Knows,
        List.append_nil, List.forall_mem_map]
      exact Iff.rfl
    exact ⟨fun all => (single _ (List.mem_singleton.2 rfl)).1 (all _ (List.mem_singleton.2 rfl)),
      fun accepts operation member => (single operation member).2 accepts⟩

/-- Synthesis of a valid relation succeeds exactly if the relation has what its methods need, and
otherwise reports an unknown type of the relation or bindings that cannot be told apart. -/
theorem synthesizeRelation_spec (relation : Relation) (valid : relation.validate = .ok ()) :
    ((∃ methods, (Synthesizer.standard settings known types).synthesizeRelation relation =
        .ok methods) ↔
      (Conventions.standard settings known types).Accepts relation) ∧
    ∀ failure,
      (Synthesizer.standard settings known types).synthesizeRelation relation = .error failure →
        (∃ name declared, relation.Declares name declared ∧ types declared = none ∧
          failure = .unresolvedType relation.fullName name declared) ∨
        ∃ operation ∈ (Synthesizer.standard settings known types).plan relation, ∃ bindings,
          (Conventions.standard settings known types).bind operation = .ok bindings ∧
          ¬ Separable (bindings.map (·.name)) ∧
          failure = .bindingMismatch
            (defaultNaming.method relation operation.kind operation.unique)
            (distinct (filled (bindings.map (·.name)))) (bindings.map (·.name)) := by
  have planned : ∀ operation ∈ (Synthesizer.standard settings known types).plan relation,
      operation.relation = relation ∧ operation.IsPlanned := fun operation member =>
    ⟨(of_mem_plan relation member).1, isPlanned_of_mem_plan relation valid member⟩
  rw [Synthesizer.synthesizeRelation, valid, ok_bind]
  constructor
  · rw [← forall_fits_relation_iff settings known types relation valid]
    have each : (∃ methods, ((Synthesizer.standard settings known types).plan relation).mapM
        (Synthesizer.standard settings known types).synthesizeValidated = .ok methods) ↔
        ∀ operation ∈ (Synthesizer.standard settings known types).plan relation,
          Fits settings known types operation := by
      rw [exists_mapM_eq_ok_iff]
      exact forall₂_congr fun operation member =>
        exists_method_iff settings known types operation (planned operation member).2
    rw [← each]
    constructor
    · rintro ⟨result, success⟩
      obtain ⟨methods, made, -⟩ := (bind_eq_ok_iff _ _ _).1 success
      exact ⟨methods, made⟩
    · rintro ⟨methods, made⟩
      rw [made]
      exact ⟨_, rfl⟩
  · intro failure failed
    rcases (bind_eq_error_iff _ _ _).1 failed with early | ⟨methods, -, impossible⟩
    · obtain ⟨operation, member, fault⟩ := exists_of_mapM_eq_error _ _ failure early
      obtain ⟨rfl, isPlanned⟩ := planned operation member
      rcases error_of_synthesizeValidated settings known types operation isPlanned failure fault
        with ⟨entry, needed, unknown, report⟩ | ⟨bindings, bound, inseparable, report⟩
      · have declared := declares_of_mem_needed settings known types operation isPlanned entry
          needed
        exact .inl ⟨entry.1, entry.2, declared, unknown, report⟩
      · exact .inr ⟨operation, member, bindings, bound, inseparable, report⟩
    · exact absurd impossible (pure_ne_error _ _)

theorem synthesizeRelation_spec_orders :
    ∃ methods, (Synthesizer.standard {} .oracle sqlServerTypes).synthesizeRelation
      (.table orders) = .ok methods := by
  refine (synthesizeRelation_spec {} .oracle sqlServerTypes (.table orders)
    validate_orders).1.2 ?_
  constructor <;> decide +kernel

/-- A foreign key on a column without letters makes a filter without a name. -/
example :
    ((Synthesizer.standard {} .oracle sqlServerTypes).synthesizeRelation (.table
      { orders with
        columns := orders.columns ++ [{ name := "__", declaredType := "int" }]
        foreignKeys := [{ columns := ["__"], target := "Customers" }] })) =
      .error (.bindingMismatch "get_all_orders" [] [""]) := by
  decide +kernel

end Relations

end DataAccess

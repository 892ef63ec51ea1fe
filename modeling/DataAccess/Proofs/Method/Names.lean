import DataAccess.Proofs.Schema.Plan
import Mathlib.Data.List.Nodup

/-!
Names of methods. A name is a verb before the name of the relation, and for a lookup by unique
columns it lists the columns behind that. Relations and columns may be called anything, so names of
different kinds are told apart by what no text in between can make up for: the first letter, the
length, and how often the letter `l` stands in the name.
-/
set_option autoImplicit false

namespace DataAccess

/-- The letter that names of a kind begin with. -/
def OperationKind.initial : OperationKind → Char
  | readAll | readByKey | readByUnique => 'g'
  | insert => 'a'
  | update => 'u'
  | delete => 'r'

/-- Names of different kinds that begin with the same letter are those of reads. -/
theorem OperationKind.eq_or_reads (kind other : OperationKind)
    (initials : kind.initial = other.initial) :
    kind = other ∨ kind ∈ [readAll, readByKey, readByUnique] ∧
      other ∈ [readAll, readByKey, readByUnique] := by
  revert initials
  cases kind <;> cases other <;> decide

section Kinds

variable (relation : Relation) (unique another : Option Unique)

theorem head?_methodName (kind : OperationKind) :
    (methodName relation kind unique).toList.head? = some kind.initial := by
  cases kind <;> simp [methodName, OperationKind.initial]

theorem readAll_ne_readByKey :
    methodName relation .readAll unique ≠ methodName relation .readByKey another := by
  intro same
  have lengths := congrArg String.length same
  have long : "get_all_".length = 8 := rfl
  have short : "get_".length = 4 := rfl
  simp only [methodName, String.length_append, long, short] at lengths
  omega

theorem readByKey_ne_readByUnique :
    methodName relation .readByKey unique ≠ methodName relation .readByUnique another := by
  intro same
  have lengths := congrArg String.length same
  have between : "_by_".length = 4 := rfl
  simp only [methodName, String.length_append, between] at lengths
  omega

/-- If the names were the same, the columns would have no letters, by the lengths, and two of
them, since `all` has two that nothing else on the other side can have. -/
theorem readAll_ne_readByUnique :
    methodName relation .readAll unique ≠ methodName relation .readByUnique another := by
  intro same
  have lengths := congrArg (fun name => name.toList.length) same
  have letters := congrArg (fun name => name.toList.count 'l') same
  have among : (lookupSuffix another).toList.count 'l' ≤ (lookupSuffix another).toList.length :=
    List.count_le_length
  have long : "get_all_".toList.length = 8 ∧ "get_all_".toList.count 'l' = 2 := by decide
  have short : "get_".toList.length = 4 ∧ "get_".toList.count 'l' = 0 := by decide
  have between : "_by_".toList.length = 4 ∧ "_by_".toList.count 'l' = 0 := by decide
  simp only [methodName, String.toList_append, List.length_append, List.count_append, long, short,
    between] at lengths letters
  omega

/-- Names of different kinds differ. -/
theorem kind_eq_of_methodName_eq (kind other : OperationKind)
    (same : methodName relation kind unique = methodName relation other another) :
    kind = other := by
  have initials : kind.initial = other.initial := by
    have heads := congrArg (fun name => name.toList.head?) same
    simpa only [head?_methodName, Option.some.injEq] using heads
  rcases kind.eq_or_reads other initials with equal | ⟨read, readOther⟩
  · exact equal
  · simp only [List.mem_cons, List.not_mem_nil, or_false] at read readOther
    rcases read with rfl | rfl | rfl
    · rcases readOther with rfl | rfl | rfl
      · rfl
      · exact absurd same (readAll_ne_readByKey relation unique another)
      · exact absurd same (readAll_ne_readByUnique relation unique another)
    · rcases readOther with rfl | rfl | rfl
      · exact absurd same.symm (readAll_ne_readByKey relation another unique)
      · rfl
      · exact absurd same (readByKey_ne_readByUnique relation unique another)
    · rcases readOther with rfl | rfl | rfl
      · exact absurd same.symm (readAll_ne_readByUnique relation another unique)
      · exact absurd same.symm (readByKey_ne_readByUnique relation another unique)
      · rfl

/-- Names are the same where the kinds are and, for lookups by unique columns, the columns are
listed by the same text. -/
theorem methodName_eq_iff (kind other : OperationKind) :
    methodName relation kind unique = methodName relation other another ↔
      kind = other ∧
        (kind = .readByUnique → lookupSuffix unique = lookupSuffix another) := by
  constructor
  · intro same
    obtain rfl := kind_eq_of_methodName_eq relation unique another kind other same
    refine ⟨rfl, ?_⟩
    rintro rfl
    simpa only [methodName, String.append_right_inj] using same
  · rintro ⟨rfl, columns⟩
    cases kind with
    | readByUnique => rw [methodName, methodName, columns rfl]
    | readAll | readByKey | insert | update | delete => rfl

end Kinds

namespace Table

variable (table : Table)

/-- The operations of a table are of different kinds, apart from its lookups by unique columns. -/
theorem exists_kinds : ∃ kinds : List OperationKind, kinds.Nodup ∧ .readByUnique ∉ kinds ∧
    table.supported = kinds.map (fun kind => (kind, none)) ++
      table.uniques.map fun unique => (.readByUnique, some unique) := by
  unfold supported
  cases table.primaryKey with
  | none => exact ⟨[.readAll, .insert], by decide, by decide, rfl⟩
  | some key =>
    exact ⟨[.readAll, .readByKey, .insert, .update, .delete], by decide, by decide, rfl⟩

/-- The names of a table's methods are those of its lookups by unique columns and others that
differ from each other and from these. -/
theorem nodup_map_methodName_supported (relation : Relation) :
    (table.supported.map fun (kind, unique) => methodName relation kind unique).Nodup ↔
      (table.uniques.map fun unique => lookupSuffix (some unique)).Nodup := by
  obtain ⟨kinds, distinct, others, supported⟩ := table.exists_kinds
  have named : (kinds.map fun kind => methodName relation kind none).Nodup := by
    apply distinct.map
    intro kind other same
    exact kind_eq_of_methodName_eq relation none none kind other same
  have apart : ∀ name ∈ kinds.map (fun kind => methodName relation kind none),
      ∀ other ∈ table.uniques.map (fun unique => methodName relation .readByUnique (some unique)),
        name ≠ other := by
    intro name member other lookup same
    obtain ⟨kind, among, rfl⟩ := List.mem_map.1 member
    obtain ⟨unique, -, rfl⟩ := List.mem_map.1 lookup
    have equal := kind_eq_of_methodName_eq relation none (some unique) kind _ same
    exact others (equal ▸ among)
  have lookups : (table.uniques.map fun unique =>
      methodName relation .readByUnique (some unique)).Nodup ↔
        (table.uniques.map fun unique => lookupSuffix (some unique)).Nodup := by
    have prefixed : (table.uniques.map fun unique =>
        methodName relation .readByUnique (some unique)) =
          (table.uniques.map fun unique => lookupSuffix (some unique)).map
            (("get_" ++ Casing.snake relation.name ++ "_by_") ++ ·) := by
      rw [List.map_map]
      rfl
    rw [prefixed]
    apply List.nodup_map_iff
    intro columns others same
    exact (String.append_right_inj _).1 same
  rw [supported, List.map_append, List.map_map, List.map_map, List.nodup_append]
  exact ⟨fun whole => lookups.1 whole.2.1, fun suffixes => ⟨named, lookups.2 suffixes, apart⟩⟩

/-- Methods of a table have different names if its unique constraints list their columns by
different texts. All other names differ whatever the table and its columns are called. -/
theorem nodup_methodNames_iff (settings : GenerationSettings) :
    ((((Relation.table table).plan settings).map fun operation =>
        defaultNaming.method operation.relation operation.kind operation.unique).Nodup ↔
      (table.uniques.map fun unique =>
        "_and_".intercalate (unique.columns.map Casing.snake)).Nodup) ∧
    ∀ kind other unique another,
      defaultNaming.method (.table table) kind unique =
          defaultNaming.method (.table table) other another ↔
        kind = other ∧
          (kind = .readByUnique → lookupSuffix unique = lookupSuffix another) := by
  refine ⟨?_, fun kind other unique another =>
    methodName_eq_iff (.table table) unique another kind other⟩
  rw [Relation.plan, List.map_map, table.operations_eq_supported]
  exact table.nodup_map_methodName_supported (.table table)

end Table

/-- Two constraints that list their columns by the same text. -/
example : lookupSuffix (some { columns := ["City", "Code"] }) =
    lookupSuffix (some { columns := ["CityAndCode"] }) := by
  decide +kernel

end DataAccess

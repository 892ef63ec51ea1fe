import DataAccess.Method.Conventions
import DataAccess.Proofs.Schema.Identifiers
import DataAccess.Proofs.Text.Words

/-!
Names of filters. Suffixes are added until both names of a filter are new, and names grow with
every suffix, so the search ends; each filter takes its names before those after it, so no two
filters share a name and none has a name that was taken before.
-/
set_option autoImplicit false

namespace DataAccess

theorem length_le_longest (names : List String) (name : String) (member : name ∈ names) :
    name.length ≤ longest names := by
  induction names with
  | nil => cases member
  | cons first rest ih =>
    have step : longest (first :: rest) = max first.length (longest rest) := rfl
    rw [step]
    rcases List.mem_cons.1 member with rfl | later
    · omega
    · have bound := ih later
      omega

@[simp] theorem suffixed_zero (name : String) : suffixed name 0 = name := by
  simp [suffixed]

theorem toList_suffixed (name : String) (count : Nat) :
    (suffixed name count).toList =
      name.toList ++ (List.replicate count "Filter".toList).flatten := by
  simp [suffixed, String.toList_join, List.flatMap_def]

theorem length_suffixed (name : String) (count : Nat) :
    (suffixed name count).length = name.length + 6 * count := by
  have suffix : "Filter".toList.length = 6 := by decide
  rw [← String.length_toList, toList_suffixed, List.length_append, List.length_flatten,
    List.map_replicate, List.sum_replicate_nat, suffix, String.length_toList]
  omega

/-- A name with more suffixes than the longest taken name has characters is new. -/
theorem not_mem_of_longest_lt (taken : List String) (name : String) (count : Nat)
    (long : longest taken < count) : suffixed name count ∉ taken := by
  intro member
  have bound := length_le_longest taken _ member
  rw [length_suffixed] at bound
  omega

theorem areFree_eq_true_iff (taken : List String) (marker argument : String) (count : Nat) :
    areFree taken marker argument count = true ↔
      suffixed marker count ∉ taken ∧ suffixed argument count ∉ taken := by
  simp [areFree]

/-- The search finds the least number of suffixes that makes both names new. -/
theorem suffixCount_spec (taken : List String) (marker argument : String) :
    areFree taken marker argument (suffixCount taken marker argument) = true ∧
      ∀ count < suffixCount taken marker argument,
        areFree taken marker argument count = false := by
  have free : areFree taken marker argument (longest taken + 1) = true :=
    (areFree_eq_true_iff taken marker argument _).2
      ⟨not_mem_of_longest_lt taken marker _ (Nat.lt_succ_self _),
        not_mem_of_longest_lt taken argument _ (Nat.lt_succ_self _)⟩
  cases found : (List.range (longest taken + 2)).find? (areFree taken marker argument) with
  | none =>
    have refused := List.find?_eq_none.1 found (longest taken + 1) (by simp)
    exact absurd free refused
  | some count =>
    rw [suffixCount, found, Option.getD_some]
    refine ⟨List.find?_some found, ?_⟩
    intro fewer less
    obtain ⟨-, index, bound, this, before⟩ := List.find?_eq_some_iff_getElem.1 found
    simp only [List.getElem_range] at this before
    have refused := before fewer (by omega)
    simpa using refused

/-- The names that a filter has made for itself. -/
def Filter.names (filter : Filter) : List String :=
  [filter.marker, filter.argument]

theorem Filter.marker_mem_names (filter : Filter) : filter.marker ∈ filter.names :=
  List.mem_cons_self

theorem Filter.argument_mem_names (filter : Filter) : filter.argument ∈ filter.names :=
  List.mem_cons_of_mem _ List.mem_cons_self

namespace Naming

variable (naming : Naming)

/-- Both names of a filter are new. -/
theorem filter_fresh (taken : List String) (column : Column) :
    (naming.filter taken column).marker ∉ taken ∧
      (naming.filter taken column).argument ∉ taken :=
  (areFree_eq_true_iff taken _ _ _).1 (suffixCount_spec taken _ _).1

theorem filtersOn_fresh (taken : List String) (columns : List Column) :
    ∀ filter ∈ naming.filtersOn taken columns,
      filter.marker ∉ taken ∧ filter.argument ∉ taken := by
  induction columns generalizing taken with
  | nil => simp [filtersOn]
  | cons column rest ih =>
    intro filter member
    rw [filtersOn] at member
    rcases List.mem_cons.1 member with rfl | later
    · exact naming.filter_fresh taken column
    · obtain ⟨marker, argument⟩ := ih _ filter later
      exact ⟨fun old => marker (List.mem_append_left _ old),
        fun old => argument (List.mem_append_left _ old)⟩

/-- A name that was taken is none of the names of a filter. -/
theorem not_mem_names_of_mem (taken : List String) (columns : List Column) (filter : Filter)
    (member : filter ∈ naming.filtersOn taken columns) (name : String) (old : name ∈ taken) :
    name ∉ filter.names := by
  obtain ⟨marker, argument⟩ := naming.filtersOn_fresh taken columns filter member
  intro among
  rw [Filter.names, List.mem_cons, List.mem_singleton] at among
  rcases among with rfl | rfl
  · exact marker old
  · exact argument old

/-- No name of a filter is one of a later filter. -/
theorem pairwise_filtersOn (taken : List String) (columns : List Column) :
    (naming.filtersOn taken columns).Pairwise fun earlier later =>
      ∀ name ∈ earlier.names, name ∉ later.names := by
  induction columns generalizing taken with
  | nil => exact .nil
  | cons column rest ih =>
    rw [filtersOn]
    refine .cons ?_ (ih _)
    intro later member name own
    apply naming.not_mem_names_of_mem _ rest later member
    exact List.mem_append_right taken own

/-- Two filters are told apart by their names, whichever of its two each of them gives. -/
theorem pairwise_ne (part other : Filter → String)
    (own : ∀ filter : Filter, part filter ∈ filter.names)
    (ownOther : ∀ filter : Filter, other filter ∈ filter.names)
    (taken : List String) (columns : List Column) :
    (naming.filtersOn taken columns).Pairwise fun earlier later =>
      part earlier ≠ other later := by
  refine (naming.pairwise_filtersOn taken columns).imp ?_
  intro earlier later apart same
  apply apart _ (own earlier)
  rw [same]
  exact ownOther later

/-- No two filters have the same placeholder. -/
theorem nodup_markers (taken : List String) (columns : List Column) :
    ((naming.filtersOn taken columns).map (·.marker)).Nodup :=
  List.pairwise_map.2
    (naming.pairwise_ne _ _ Filter.marker_mem_names Filter.marker_mem_names taken columns)

/-- No two filters are passed as the same argument. -/
theorem nodup_arguments (taken : List String) (columns : List Column) :
    ((naming.filtersOn taken columns).map (·.argument)).Nodup :=
  List.pairwise_map.2
    (naming.pairwise_ne _ _ Filter.argument_mem_names Filter.argument_mem_names taken columns)

/-- A filter has its names from those that were taken and those of the filters before it. -/
theorem eq_filter_of_filtersOn_eq (taken : List String) (columns : List Column)
    (earlier : List Filter) (filter : Filter) (later : List Filter)
    (cut : naming.filtersOn taken columns = earlier ++ filter :: later) :
    filter = naming.filter (taken ++ earlier.flatMap Filter.names) filter.column := by
  induction columns generalizing taken earlier with
  | nil => simp [filtersOn] at cut
  | cons column rest ih =>
    rw [filtersOn] at cut
    cases earlier with
    | nil =>
      obtain ⟨rfl, -⟩ := List.cons.inj cut
      rw [List.flatMap_nil, List.append_nil]
      rfl
    | cons first earlier =>
      obtain ⟨rfl, tail⟩ := List.cons.inj cut
      rw [List.flatMap_cons, ← List.append_assoc]
      exact ih _ _ tail

theorem map_column_filtersOn (taken : List String) (columns : List Column) :
    (naming.filtersOn taken columns).map (·.column) = columns := by
  induction columns generalizing taken with
  | nil => rfl
  | cons column rest ih =>
    rw [filtersOn, List.map_cons, ih]
    rfl

theorem column_mem_of_mem_filtersOn (taken : List String) (columns : List Column)
    (filter : Filter) (member : filter ∈ naming.filtersOn taken columns) :
    filter.column ∈ columns := by
  rw [← naming.map_column_filtersOn taken columns]
  exact List.mem_map_of_mem member

theorem exists_suffixed_of_mem_filtersOn (taken : List String) (columns : List Column)
    (filter : Filter) (member : filter ∈ naming.filtersOn taken columns) :
    ∃ count, filter.marker = suffixed (naming.scalarMarker filter.column.name) count := by
  induction columns generalizing taken with
  | nil => simp [filtersOn] at member
  | cons column rest ih =>
    rw [filtersOn] at member
    rcases List.mem_cons.1 member with rfl | later
    · exact ⟨_, rfl⟩
    · exact ih _ later

end Naming

section Standard

theorem toList_camel (name : String) :
    (Casing.camel name).toList = Casing.camelChars name.toList := by
  rw [Casing.camel, String.toList_ofList]

theorem camel_eq_empty_iff (name : String) (identifier : isIdentifier name = true) :
    Casing.camel name = "" ↔ ∀ c ∈ name.toList, c = '_' := by
  rw [← Casing.camelChars_eq_nil_iff name.toList (letters_of_isIdentifier name identifier),
    ← toList_camel, String.toList_eq_nil_iff]

theorem letters_of_mem_suffixed (name : String) (count : Nat)
    (letters : ∀ c ∈ name.toList, isIdentifierChar c = true) :
    ∀ c ∈ (suffixed name count).toList, isIdentifierChar c = true := by
  have suffix : ∀ c ∈ "Filter".toList, isIdentifierChar c = true := by decide
  intro c member
  rw [toList_suffixed, List.mem_append] at member
  rcases member with old | new
  · exact letters c old
  · obtain ⟨word, among, inside⟩ := List.mem_flatten.1 new
    rw [List.eq_of_mem_replicate among] at inside
    exact suffix c inside

/-- Under the default naming a filter on an identifier has a placeholder of the same characters. -/
theorem letters_of_mem_marker (taken : List String) (columns : List Column)
    (identifiers : ∀ column ∈ columns, isIdentifier column.name = true) (filter : Filter)
    (member : filter ∈ defaultNaming.filtersOn taken columns) :
    ∀ c ∈ filter.marker.toList, isIdentifierChar c = true := by
  obtain ⟨count, made⟩ := defaultNaming.exists_suffixed_of_mem_filtersOn taken columns filter member
  have among := defaultNaming.column_mem_of_mem_filtersOn taken columns filter member
  rw [made]
  apply letters_of_mem_suffixed
  have camel : defaultNaming.scalarMarker filter.column.name =
      Casing.camel filter.column.name := rfl
  rw [camel, toList_camel]
  exact Casing.letters_of_mem_camelChars _
    (letters_of_isIdentifier _ (identifiers filter.column among))

/-- A filter has no name of its own where its column has nothing but underscores and the empty
name was not taken. -/
theorem filter_marker_eq_empty_iff (taken : List String) (column : Column)
    (notTaken : "" ∉ taken) :
    (defaultNaming.filter taken column).marker = "" ↔ Casing.camel column.name = "" := by
  have made : (defaultNaming.filter taken column).marker =
      suffixed (Casing.camel column.name)
        (suffixCount taken (Casing.camel column.name) (Casing.camel column.name)) := rfl
  rw [made]
  constructor
  · intro empty
    have length := congrArg String.length empty
    rw [length_suffixed] at length
    have zero : (Casing.camel column.name).length = 0 := by
      have none : "".length = 0 := rfl
      omega
    rwa [← String.length_toList, List.length_eq_zero_iff, String.toList_eq_nil_iff] at zero
  · intro empty
    rw [empty]
    have least := (suffixCount_spec taken "" "").2
    have free : areFree taken "" "" 0 = true := by
      rw [areFree_eq_true_iff, suffixed_zero]
      exact ⟨notTaken, notTaken⟩
    have none : suffixCount taken "" "" = 0 := by
      rcases Nat.eq_zero_or_pos (suffixCount taken "" "") with zero | some
      · exact zero
      · rw [least 0 some] at free
        cases free
    rw [none, suffixed_zero]

/-- There is an empty placeholder among the filters if some column has only underscores. -/
theorem empty_mem_markers_iff (taken : List String) (columns : List Column)
    (notTaken : "" ∉ taken) :
    "" ∈ (defaultNaming.filtersOn taken columns).map (·.marker) ↔
      ∃ column ∈ columns, Casing.camel column.name = "" := by
  induction columns generalizing taken with
  | nil => simp [Naming.filtersOn]
  | cons column rest ih =>
    have head := filter_marker_eq_empty_iff taken column notTaken
    have same : (defaultNaming.filter taken column).argument =
        (defaultNaming.filter taken column).marker := rfl
    rw [Naming.filtersOn, List.map_cons, List.mem_cons]
    by_cases empty : Casing.camel column.name = ""
    · exact iff_of_true (.inl (head.2 empty).symm) ⟨column, List.mem_cons_self, empty⟩
    · have filled : (defaultNaming.filter taken column).marker ≠ "" := fun none =>
        empty (head.1 none)
      have later : "" ∉ taken ++ [(defaultNaming.filter taken column).marker,
          (defaultNaming.filter taken column).argument] := by
        simp [same, notTaken, filled.symm]
      rw [ih _ later]
      simp [empty, filled.symm]

end Standard

end DataAccess

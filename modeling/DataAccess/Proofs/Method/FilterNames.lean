import DataAccess.Proofs.Method.Filters
import DataAccess.Proofs.Schema.WellFormed
import DataAccess.Synthesis
import Mathlib.Order.Bounds.Defs

/-!
How the filters of a table come by their names. A filter is first called what the naming makes of
its column; while one of its two names is taken, both get another suffix. The search ends whatever
the naming is, and the names it ends with are told apart from those of the paging scalars and from
those of all other filters, placeholders from arguments as well.
-/
set_option autoImplicit false

namespace DataAccess

/-- The search for the placeholder and the argument of a filter: names that are both new are kept,
others are tried again with another suffix on each. -/
inductive Renames (taken : List String) : String × String → String × String → Prop where
  | keep {marker argument : String} (newMarker : marker ∉ taken) (newArgument : argument ∉ taken) :
      Renames taken (marker, argument) (marker, argument)
  | retry {marker argument : String} {found : String × String}
      (clash : marker ∈ taken ∨ argument ∈ taken)
      (next : Renames taken (marker ++ "Filter", argument ++ "Filter") found) :
      Renames taken (marker, argument) found

theorem suffixed_succ (name : String) (count : Nat) :
    suffixed name (count + 1) = suffixed (name ++ "Filter") count := by
  simp [← String.toList_inj, toList_suffixed, List.replicate_succ]

section Search

variable {taken : List String}

theorem Renames.unique {start found other : String × String} (renames : Renames taken start found)
    (renamesOther : Renames taken start other) : found = other := by
  induction renames with
  | keep newMarker newArgument =>
    cases renamesOther with
    | keep => rfl
    | retry clash => exact absurd clash (not_or.2 ⟨newMarker, newArgument⟩)
  | retry clash next ih =>
    cases renamesOther with
    | keep newMarker newArgument => exact absurd clash (not_or.2 ⟨newMarker, newArgument⟩)
    | retry _ nextOther => exact ih nextOther

/-- The search goes on for as long as one of the names is taken. Each turn puts a suffix on the
names that it starts with, so that the turns left are one fewer. -/
theorem renames_suffixed (marker argument : String) (count : Nat)
    (free : areFree taken marker argument count = true)
    (clash : ∀ fewer < count, areFree taken marker argument fewer = false) :
    Renames taken (marker, argument) (suffixed marker count, suffixed argument count) := by
  induction count generalizing marker argument with
  | zero =>
    have new := (areFree_eq_true_iff taken marker argument 0).1 free
    rw [suffixed_zero, suffixed_zero] at new ⊢
    exact .keep new.1 new.2
  | succ count ih =>
    have next : ∀ turns, areFree taken marker argument (turns + 1) =
        areFree taken (marker ++ "Filter") (argument ++ "Filter") turns := by
      intro turns
      rw [areFree, areFree, suffixed_succ, suffixed_succ]
    have first := clash 0 (Nat.succ_pos count)
    rw [Bool.eq_false_iff, ne_eq, areFree_eq_true_iff, suffixed_zero, suffixed_zero, not_and_or,
      not_not, not_not] at first
    rw [suffixed_succ, suffixed_succ]
    refine .retry first (ih _ _ ?_ ?_)
    · rw [← next]
      exact free
    · intro fewer less
      rw [← next]
      exact clash _ (Nat.succ_lt_succ less)

/-- The search ends, and with the least number of suffixes that makes both names new. -/
theorem renames_iff (marker argument : String) (found : String × String) :
    Renames taken (marker, argument) found ↔
      found = (suffixed marker (suffixCount taken marker argument),
        suffixed argument (suffixCount taken marker argument)) := by
  obtain ⟨free, clash⟩ := suffixCount_spec taken marker argument
  have reached := renames_suffixed marker argument _ free clash
  constructor
  · intro renames
    exact renames.unique reached
  · rintro rfl
    exact reached

theorem isLeast_suffixCount (marker argument : String) :
    IsLeast {count | suffixed marker count ∉ taken ∧ suffixed argument count ∉ taken}
      (suffixCount taken marker argument) := by
  obtain ⟨free, clash⟩ := suffixCount_spec taken marker argument
  refine ⟨(areFree_eq_true_iff taken marker argument _).1 free, ?_⟩
  intro count new
  by_contra fewer
  have taken := clash count (Nat.lt_of_not_le fewer)
  rw [(areFree_eq_true_iff _ marker argument count).2 new] at taken
  cases taken

end Search

namespace Naming

/-- What a filter behind others must not be called. -/
def takenBefore (naming : Naming) (paging : Bool) (earlier : List Filter) : List String :=
  naming.pagingNames paging ++ earlier.flatMap Filter.names

/-- How a filter comes by its names where some are taken: they are what the search for them ends
with, and have the least number of suffixes, the same for both, that makes them new. -/
structure Calls (naming : Naming) (taken : List String) (filter : Filter) : Prop where
  reached : ∀ found,
    Renames taken (naming.scalarMarker filter.column.name, naming.argument filter.column.name)
      found ↔ found = (filter.marker, filter.argument)
  least : ∃ count,
    filter.marker = suffixed (naming.scalarMarker filter.column.name) count ∧
    filter.argument = suffixed (naming.argument filter.column.name) count ∧
    IsLeast {count | suffixed (naming.scalarMarker filter.column.name) count ∉ taken ∧
      suffixed (naming.argument filter.column.name) count ∉ taken} count

/-- Filters for the columns of a table's foreign keys, all with names of their own. -/
structure Separates (naming : Naming) (table : Table) (paging : Bool) (filters : List Filter) :
    Prop where
  /-- One filter for each column of a foreign key with one column, in the order of the keys. -/
  columns : filters.map (·.column.name) = distinct table.singleColumns
  located : ∀ filter ∈ filters, table.findColumn? filter.column.name = some filter.column
  markers : (filters.map (·.marker)).Nodup
  arguments : (filters.map (·.argument)).Nodup
  crosswise : filters.Pairwise fun earlier later =>
    earlier.marker ≠ later.argument ∧ earlier.argument ≠ later.marker
  page : paging = true → ∀ filter ∈ filters, ∀ name ∈ [pageSizeName, pageNumberName],
    naming.scalarMarker name ∉ filter.names ∧ naming.argument name ∉ filter.names
  called : ∀ earlier filter later, filters = earlier ++ filter :: later →
    naming.Calls (naming.takenBefore paging earlier) filter

variable (naming : Naming)

theorem calls_filter (taken : List String) (column : Column) :
    naming.Calls taken (naming.filter taken column) :=
  ⟨renames_iff _ _, _, rfl, rfl, isLeast_suffixCount _ _⟩

theorem mem_pagingNames (name : String) (known : name ∈ [pageSizeName, pageNumberName]) :
    naming.scalarMarker name ∈ naming.pagingNames true ∧
      naming.argument name ∈ naming.pagingNames true := by
  rw [pagingNames, if_pos rfl]
  exact ⟨List.mem_flatMap.2 ⟨name, known, by simp⟩, List.mem_flatMap.2 ⟨name, known, by simp⟩⟩

theorem separates_filtersOn (table : Table) (paging : Bool)
    (has : table.Has table.singleColumns) :
    naming.Separates table paging (naming.filtersOn (naming.pagingNames paging)
      (table.columnsNamed (distinct table.singleColumns))) := by
  have once : table.Has (distinct table.singleColumns) := fun name member =>
    has name ((mem_distinct name _).1 member)
  refine { markers := naming.nodup_markers _ _, arguments := naming.nodup_arguments _ _,
           columns := ?columns, located := ?located, crosswise := ?crosswise, page := ?page,
           called := ?called }
  case columns =>
    rw [← Function.comp_def (·.name) Filter.column, ← List.map_map, naming.map_column_filtersOn]
    exact Table.map_name_columnsNamed _ once
  case located =>
    intro filter member
    have among := naming.column_mem_of_mem_filtersOn _ _ filter member
    obtain ⟨name, -, found⟩ := List.mem_filterMap.1 among
    rw [(Table.of_findColumn? name _ found).2]
    exact found
  case crosswise =>
    have markers := naming.pairwise_ne _ _ Filter.marker_mem_names Filter.argument_mem_names
      (naming.pagingNames paging) (table.columnsNamed (distinct table.singleColumns))
    have arguments := naming.pairwise_ne _ _ Filter.argument_mem_names Filter.marker_mem_names
      (naming.pagingNames paging) (table.columnsNamed (distinct table.singleColumns))
    exact markers.and arguments
  case page =>
    rintro rfl filter member name known
    obtain ⟨marker, argument⟩ := naming.mem_pagingNames name known
    exact ⟨naming.not_mem_names_of_mem _ _ filter member _ marker,
      naming.not_mem_names_of_mem _ _ filter member _ argument⟩
  case called =>
    intro earlier filter later cut
    rw [naming.eq_filter_of_filtersOn_eq _ _ earlier filter later cut]
    exact naming.calls_filter _ _

end Naming

/-- Where foreign keys are about columns of the table, the filters are made, and no two names that
a statement with them has are the same. -/
theorem Conventions.filters_separate (conventions : Conventions) (table : Table) (paging : Bool)
    (known : ∀ key ∈ table.foreignKeys, table.Has key.columns) :
    ∃ filters, conventions.filters table paging = .ok filters ∧
      conventions.naming.Separates table paging filters := by
  have has := Table.has_singleColumns known
  refine ⟨_, ?_, conventions.naming.separates_filtersOn table paging has⟩
  rw [filters, Table.filterColumns_eq has]
  rfl

/-- A table with two filters, the second of which would by itself be called what the first is
called after a suffix. -/
def layouts : Table where
  name := "Layout"
  columns := [
    { name := "PageSize", declaredType := "int" },
    { name := "PageSizeFilter", declaredType := "int" }]
  foreignKeys := [
    { columns := ["PageSize"], target := "PaperFormat" },
    { columns := ["PageSizeFilter", "PageSize"], target := "Sieve" },
    { columns := ["PageSizeFilter"], target := "Sieve" },
    { columns := ["PageSize"], target := "Envelope" }]

theorem Conventions.filters_separate_layouts :
    (∀ key ∈ layouts.foreignKeys, layouts.Has key.columns) ∧
      ∃ filters, ({} : Synthesizer).conventions.filters layouts true = .ok filters ∧
        defaultNaming.Separates layouts true filters ∧
        (filters.map fun filter => (filter.marker, filter.argument)) =
          [("pageSizeFilter", "pageSizeFilter"),
            ("pageSizeFilterFilter", "pageSizeFilterFilter")] := by
  have known : ∀ key ∈ layouts.foreignKeys, layouts.Has key.columns := by
    intro key member
    rw [← Table.unknownColumns_eq_nil_iff]
    revert key
    decide
  obtain ⟨filters, made, separates⟩ :=
    ({} : Synthesizer).conventions.filters_separate layouts true known
  have names : (({} : Synthesizer).conventions.filters layouts true).map
      (·.map fun filter => (filter.marker, filter.argument)) =
        .ok [("pageSizeFilter", "pageSizeFilter"),
          ("pageSizeFilterFilter", "pageSizeFilterFilter")] := by
    decide +kernel
  rw [made] at names
  exact ⟨known, filters, made, separates, Except.ok.inj names⟩

end DataAccess

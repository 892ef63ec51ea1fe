import DataAccess.Sql.Query

/-!
Overrides of generation settings by relation name, kept in the order of the names. What is found
under a name after an insertion is what was inserted there last.
-/
set_option autoImplicit false

namespace DataAccess

open Sql

/-- Settings for one relation; what is not set falls back to the defaults. -/
structure RelationOverride where
  renderStrategy : Option RenderStrategy := none
  paging : Option Bool := none
deriving DecidableEq

structure Overrides where
  entries : List (String × RelationOverride)
  ascending : entries.Pairwise fun first second => first.1 < second.1
deriving DecidableEq

namespace Overrides

def empty : Overrides := ⟨[], .nil⟩

/-- Puts an entry at its place, over an entry of the same name. -/
def place (name : String) (value : RelationOverride) :
    List (String × RelationOverride) → List (String × RelationOverride)
  | [] => [(name, value)]
  | entry :: rest =>
    if name < entry.1 then (name, value) :: entry :: rest
    else if entry.1 < name then entry :: place name value rest
    else (name, value) :: rest

theorem eq_or_mem_of_mem_place {name : String} {value : RelationOverride}
    {entries : List (String × RelationOverride)} {entry : String × RelationOverride}
    (member : entry ∈ place name value entries) : entry = (name, value) ∨ entry ∈ entries := by
  induction entries with
  | nil => simpa [place] using member
  | cons first rest ih =>
    simp only [place] at member
    split at member
    · simpa using member
    · split at member
      · rcases List.mem_cons.1 member with rfl | later
        · simp
        · rcases ih later with same | old
          · exact .inl same
          · exact .inr (List.mem_cons_of_mem _ old)
      · rcases List.mem_cons.1 member with same | old
        · exact .inl same
        · exact .inr (List.mem_cons_of_mem _ old)

theorem place_ascending (name : String) (value : RelationOverride)
    {entries : List (String × RelationOverride)}
    (ascending : entries.Pairwise fun first second => first.1 < second.1) :
    (place name value entries).Pairwise fun first second => first.1 < second.1 := by
  induction entries with
  | nil => simp [place]
  | cons entry rest ih =>
    have below := (List.pairwise_cons.1 ascending).1
    have tail := (List.pairwise_cons.1 ascending).2
    simp only [place]
    split
    · rename_i before
      refine List.pairwise_cons.2 ⟨?_, ascending⟩
      intro later member
      rcases List.mem_cons.1 member with rfl | old
      · exact before
      · exact String.lt_trans before (below later old)
    · split
      · rename_i after
        refine List.pairwise_cons.2 ⟨?_, ih tail⟩
        intro later member
        rcases eq_or_mem_of_mem_place member with rfl | old
        · exact after
        · exact below later old
      · rename_i notBefore notAfter
        have same : entry.1 = name :=
          String.le_antisymm (String.not_lt.1 notBefore) (String.not_lt.1 notAfter)
        refine List.pairwise_cons.2 ⟨?_, tail⟩
        intro later old
        exact same ▸ below later old

theorem lookup_cons_eq_ite (name key : String) (value : RelationOverride)
    (rest : List (String × RelationOverride)) :
    ((key, value) :: rest).lookup name = if name = key then some value else rest.lookup name := by
  by_cases same : name = key
  · simp [same]
  · simp [List.lookup_cons, beq_eq_false_iff_ne.2 same, same]

theorem lookup_place (name other : String) (value : RelationOverride)
    (entries : List (String × RelationOverride)) :
    (place name value entries).lookup other =
      if other = name then some value else entries.lookup other := by
  induction entries with
  | nil => simp [place, lookup_cons_eq_ite]
  | cons entry rest ih =>
    obtain ⟨key, old⟩ := entry
    simp only [place]
    split
    · simp only [lookup_cons_eq_ite]
    · split
      · rename_i after
        have different : key ≠ name := fun same => String.lt_irrefl name (same ▸ after)
        simp only [lookup_cons_eq_ite, ih]
        by_cases same : other = key
        · simp [same, different]
        · simp [same]
      · rename_i notBefore notAfter
        have same : key = name :=
          String.le_antisymm (String.not_lt.1 notBefore) (String.not_lt.1 notAfter)
        subst same
        simp only [lookup_cons_eq_ite]
        split <;> rfl

def insert (overrides : Overrides) (name : String) (value : RelationOverride) : Overrides :=
  ⟨place name value overrides.entries, place_ascending name value overrides.ascending⟩

def find? (overrides : Overrides) (name : String) : Option RelationOverride :=
  overrides.entries.lookup name

theorem find?_insert (overrides : Overrides) (name other : String) (value : RelationOverride) :
    (overrides.insert name value).find? other =
      if other = name then some value else overrides.find? other :=
  lookup_place name other value overrides.entries

/-- The overrides of a list of entries; of two with one name the later counts. -/
def ofList (entries : List (String × RelationOverride)) : Overrides :=
  entries.foldl (fun overrides entry => overrides.insert entry.1 entry.2) empty

end Overrides

end DataAccess

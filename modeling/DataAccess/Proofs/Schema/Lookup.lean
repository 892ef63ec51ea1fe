import DataAccess.Proofs.Schema.Identifiers
import DataAccess.Proofs.Schema.WellFormed

/-!
Lookup of relations by name. A relation answers to its plain name and to its full name, and the
first relation that answers is found. Plain names have no dot, so a relation in a schema is found
under a full name of its own wherever it stands; one without a schema is hidden by an earlier
relation of the same plain name.
-/
set_option autoImplicit false

namespace DataAccess

theorem dot_not_mem_of_isIdentifier (text : String) (identifier : isIdentifier text = true) :
    '.' ∉ text.toList := by
  intro member
  have letter := letters_of_isIdentifier text identifier '.' member
  exact absurd letter (by decide)

theorem Heading.fullName_of_no_schema (heading : Heading) (plain : heading.schema = none) :
    heading.fullName = heading.name := by
  unfold fullName
  rw [plain]

theorem Heading.dot_mem_fullName (heading : Heading) (qualified : heading.schema ≠ none) :
    '.' ∈ heading.fullName.toList := by
  unfold fullName
  cases schema : heading.schema with
  | none => exact absurd schema qualified
  | some owner => simp

/-- Whether a relation can be asked for by a name. -/
def Relation.answersTo (relation : Relation) (name : String) : Bool :=
  relation.name == name || relation.fullName == name

theorem Relation.answersTo_iff (relation : Relation) (name : String) :
    relation.answersTo name = true ↔ relation.name = name ∨ relation.fullName = name := by
  simp [answersTo]

namespace Schema

variable {schema : Schema} {before after : List Relation} {relation : Relation}

/-- Under a full name of its own a relation is found unless that is the plain name of an earlier
one. -/
theorem relation?_eq_some_iff_of_own (listed : schema.relations = before ++ relation :: after)
    (own : ∀ other ∈ before ++ after, other.fullName ≠ relation.fullName) :
    schema.relation? relation.fullName = some relation ↔
      ∀ other ∈ before, other.name ≠ relation.fullName := by
  have search : schema.relation? relation.fullName =
      schema.relations.find? (·.answersTo relation.fullName) := rfl
  have answers : (relation :: after).find? (·.answersTo relation.fullName) = some relation :=
    List.find?_cons_of_pos ((relation.answersTo_iff _).2 (Or.inr rfl))
  rw [search, listed, List.find?_append, answers]
  cases found : before.find? (·.answersTo relation.fullName) with
  | none =>
    rw [Option.none_or]
    refine iff_of_true rfl fun other member same => ?_
    have silent := List.find?_eq_none.1 found other member
    exact silent ((other.answersTo_iff _).2 (Or.inl same))
  | some other =>
    have member := List.mem_of_find?_eq_some found
    have different := own other (List.mem_append_left after member)
    have hit : other.answersTo relation.fullName = true := by simpa using List.find?_some found
    have named : other.name = relation.fullName :=
      ((other.answersTo_iff _).1 hit).resolve_right different
    rw [Option.some_or]
    apply iff_of_false
    · intro same
      rw [Option.some.inj same] at different
      exact different rfl
    · intro unnamed
      exact unnamed other member named

/-- A relation with a full name of its own is found under it exactly if it is in a schema or no
earlier relation has its plain name. -/
theorem found_by_fullName_iff (given completed : Schema) (accepted : given.finish = .ok completed)
    (before after : List Relation) (relation : Relation)
    (listed : completed.relations = before ++ relation :: after)
    (own : ∀ other ∈ before ++ after, other.fullName ≠ relation.fullName) :
    completed.relation? relation.fullName = some relation ↔
      relation.heading.schema ≠ none ∨ ∀ other ∈ before, other.name ≠ relation.name := by
  rw [relation?_eq_some_iff_of_own listed own]
  by_cases qualified : relation.heading.schema = none
  · have plain : relation.fullName = relation.name :=
      relation.heading.fullName_of_no_schema qualified
    rw [plain]
    simp [qualified]
  · refine iff_of_true (fun other member same => ?_) (Or.inl qualified)
    have inside : other ∈ completed.relations := by
      rw [listed]
      exact List.mem_append_left _ member
    have named := Relation.wellNamed_of_validate (validate_of_finish given completed accepted _ inside)
    have dotted := relation.heading.dot_mem_fullName qualified
    apply dot_not_mem_of_isIdentifier other.name named.name
    rw [same]
    exact dotted

end Schema

/-- Two tables of one plain name, of which the second is in no schema. -/
def homonyms : Schema where
  tables := [
    { orders with columns := numbered orders.columns },
    { orders with columns := numbered orders.columns, schema := none }]

theorem Schema.found_by_fullName_iff_homonyms :
    ∃ relation ∈ homonyms.relations, relation.fullName = "shop.Orders" ∧
      homonyms.relation? "shop.Orders" = some relation := by
  have accepted : homonyms.finish = .ok homonyms := by decide +kernel
  have listed : homonyms.relations =
      [] ++ homonyms.relations.head (by decide) :: homonyms.relations.tail := by decide +kernel
  have name : (homonyms.relations.head (by decide)).fullName = "shop.Orders" := by decide +kernel
  have found := (Schema.found_by_fullName_iff homonyms homonyms accepted _ _ _ listed
    (by decide +kernel)).2 (Or.inl (by decide))
  rw [name] at found
  exact ⟨_, List.head_mem _, name, found⟩

/-- Two relations have different full names, and under that of the second the first is found. -/
theorem Schema.hidden_by_homonym :
    ∃ first second, homonyms.finish = .ok homonyms ∧ homonyms.relations = [first, second] ∧
      first.fullName ≠ second.fullName ∧
      homonyms.relation? second.fullName = some first := by
  refine ⟨homonyms.relations.head (by decide), homonyms.relations.getLast (by decide), ?_⟩
  decide +kernel

end DataAccess

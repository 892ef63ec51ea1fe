import DataAccess.Proofs.Document.RoundTrip

/-!
A relation that is put together step by step beside one that is read from a document with the same
contents. Tables and views come to the same either way. A function does too unless a parameter is
named with two at signs: all of them go when the function is put together, one goes when it is read,
and the one that is left is not accepted.
-/
set_option autoImplicit false

namespace DataAccess

/-- The steps by which a relation is put together. -/
inductive Assembly where
  | table (name : String) (steps : List TableStep)
  | view (name : String) (steps : List ViewStep)
  | function (name : String) (steps : List FunctionStep)

def Relation.parameters : Relation → List Parameter
  | function f => f.parameters
  | _ => []

/-- The schema of one relation. -/
def Relation.alone : Relation → Schema
  | table t => { tables := [t] }
  | view v => { views := [v] }
  | function f => { functions := [f] }

namespace Assembly

def build : Assembly → Relation
  | table name steps => .table (Table.build name steps)
  | view name steps => .view (View.build name steps)
  | function name steps => .function (TableFunction.build name steps)

/-- The contents that the steps tell, as a document holds them. -/
def told : Assembly → Relation
  | table name steps => .table (Table.told name steps)
  | view name steps => .view (View.told name steps)
  | function name steps => .function (TableFunction.told name steps)

end Assembly

/-- Both are refused, or both are accepted and are the same relation. -/
def Interchangeable (built : Relation) (loaded : Except Error Schema) : Prop :=
  ((∃ error, built.validate = .error error) ∧ ∃ error, loaded = .error error) ∨
    built.validate = .ok () ∧ loaded = .ok built.alone

/-- A name with two at signs before it. -/
def BeginsTwice (name : String) : Prop :=
  ['@', '@'] <+: name.toList

instance (name : String) : Decidable (BeginsTwice name) :=
  inferInstanceAs (Decidable (['@', '@'] <+: name.toList))

section Names

theorem dropWhile_sign (letters : List Char) (other : letters.head? ≠ some '@') :
    letters.dropWhile (· == '@') = letters := by
  refine (Text.span_append_of_head [] letters (by simp) ?_).2
  intro c first
  rw [beq_eq_false_iff_ne]
  rintro rfl
  exact other first

/-- Without a second at sign it is the same to drop one and to drop all. -/
theorem dropAtSign_of_once (name : String) (once : ¬ BeginsTwice name) :
    dropAtSign name = dropAtSigns name := by
  by_cases bare : IsBare name
  · rw [dropAtSign_of_isBare name bare, dropAtSigns, dropWhile_sign _ bare, String.ofList_toList]
  · obtain ⟨rest, letters⟩ := List.head?_eq_some_iff.1 (not_not.1 bare)
    have other : rest.head? ≠ some '@' := by
      intro second
      obtain ⟨others, rfl⟩ := List.head?_eq_some_iff.1 second
      exact once ⟨others, letters.symm⟩
    unfold dropAtSign dropAtSigns
    rw [letters, List.dropWhile_cons_of_pos (by decide), dropWhile_sign rest other]
    rfl

/-- Of two at signs one is left. -/
theorem not_isBare_of_twice (name : String) (twice : BeginsTwice name) :
    ¬ IsBare (dropAtSign name) := by
  obtain ⟨rest, letters⟩ := twice
  unfold dropAtSign
  rw [← letters]
  simp [IsBare]

end Names

namespace Relation

theorem relations_alone (relation : Relation) : relation.alone.relations = [relation] := by
  cases relation <;> rfl

theorem validate_alone (relation : Relation) : relation.alone.validate = relation.validate := by
  rw [Schema.validate, relations_alone, List.flatMap_singleton, validate]

end Relation

namespace Schema

/-- A schema that is completed to one relation is accepted if the relation is. -/
theorem finish_of_alone (schema : Schema) (relation : Relation)
    (completed : schema.numberColumns = relation.alone) :
    schema.finish = relation.validate.map fun _ => relation.alone := by
  rw [schema.finish_eq, completed, relation.validate_alone]

end Schema

namespace Assembly

/-- Columns that steps tell one by one, none of them with a position. -/
theorem map_unplaced_told {α : Type} (column? : α → Option Column) (steps : List α)
    (each : ∀ step column, column? step = some column → column.unplaced = column) :
    (steps.filterMap column?).map Column.unplaced = steps.filterMap column? := by
  apply map_eq_self
  intro column member
  obtain ⟨step, -, found⟩ := List.mem_filterMap.1 member
  exact each step column found

/-- What is told has no positions to lose when it is written. -/
theorem unplaced_told (assembly : Assembly) :
    assembly.told.alone.unplaced = assembly.told.alone := by
  cases assembly with
  | table name steps =>
    have columns := map_unplaced_told TableStep.column? steps (by
      intro step column found
      cases step <;> cases found <;> rfl)
    simp [told, Relation.alone, Schema.unplaced, Table.unplaced, Heading.unplaced, Table.told,
      columns]
  | view name steps =>
    have columns := map_unplaced_told ViewStep.column? steps (by
      intro step column found
      cases step
      cases found
      rfl)
    simp [told, Relation.alone, Schema.unplaced, View.unplaced, Heading.unplaced, View.told,
      columns]
  | function name steps =>
    have columns := map_unplaced_told FunctionStep.column? steps (by
      intro step column found
      cases step with
      | column => cases found; rfl
      | parameter => cases found)
    simp [told, Relation.alone, Schema.unplaced, TableFunction.unplaced, Heading.unplaced,
      TableFunction.told, columns]

/-- What is told is completed to what is built. -/
theorem numberColumns_told (assembly : Assembly)
    (once : ∀ parameter ∈ assembly.told.parameters, ¬ BeginsTwice parameter.name) :
    assembly.told.alone.numberColumns = assembly.build.alone := by
  cases assembly with
  | table name steps =>
    rw [build, Table.build_eq]
    rfl
  | view name steps =>
    rw [build, View.build_eq]
    rfl
  | function name steps =>
    have stripped : (TableFunction.told name steps).parameters.map Parameter.stripped =
        (TableFunction.told name steps).parameters.map Parameter.bare := by
      apply List.map_congr_left
      intro parameter member
      rw [Parameter.stripped, Parameter.bare, dropAtSign_of_once _ (once parameter member)]
    rw [build, TableFunction.build_eq]
    simp [told, Relation.alone, Schema.numberColumns, TableFunction.placed, stripped]

/-- A function with a parameter that is named with two at signs is not accepted when it is read. -/
theorem refused_of_twice (assembly : Assembly) (parameter : Parameter)
    (member : parameter ∈ assembly.told.parameters) (twice : BeginsTwice parameter.name) :
    ∃ error, assembly.told.alone.finish = .error error := by
  cases assembly with
  | table name steps => cases member
  | view name steps => cases member
  | function name steps =>
    cases outcome : (function name steps).told.alone.finish with
    | error error => exact ⟨error, rfl⟩
    | ok completed =>
      obtain ⟨⟨⟩, -, whole⟩ := (bind_eq_ok_iff _ _ _).1 outcome
      have complete := Schema.complete_of_finish _ completed outcome
      rw [← (pure_eq_ok_iff _ _).1 whole] at complete
      have bare := complete.bare _ List.mem_cons_self _ (List.mem_map_of_mem member)
      exact absurd bare (not_isBare_of_twice parameter.name twice)

/-- However its contents are written down, a relation that is read is the one that is built, unless
a parameter is named with two at signs and there is nothing else to refuse the relation for. -/
theorem interchangeable_iff (assembly : Assembly) (format : DocumentFormat) :
    (∀ document, assembly.told.alone.document.Rearranged document →
      Schema.ofDocument? format document = some assembly.told.alone) ∧
    ∀ document, Schema.ofDocument? format document = some assembly.told.alone →
      (Interchangeable assembly.build (Schema.load format (some document)) ↔
        (∀ parameter ∈ assembly.told.parameters, ¬ BeginsTwice parameter.name) ∨
          ∃ error, assembly.build.validate = .error error) := by
  refine ⟨?written, ?read⟩
  case written =>
    intro document rearranged
    rw [assembly.told.alone.reads_document format document rearranged, unplaced_told]
  case read =>
    intro document held
    have loaded : Schema.load format (some document) = assembly.told.alone.finish := by
      rw [Schema.load, Option.bind_some, held]
    rw [loaded]
    by_cases doubled : ∃ parameter ∈ assembly.told.parameters, BeginsTwice parameter.name
    · obtain ⟨parameter, member, twice⟩ := doubled
      have refused := assembly.refused_of_twice parameter member twice
      constructor
      · rintro (⟨built, -⟩ | ⟨-, accepted⟩)
        · exact .inr built
        · obtain ⟨error, failed⟩ := refused
          rw [failed] at accepted
          cases accepted
      · rintro (once | built)
        · exact absurd twice (once parameter member)
        · exact .inl ⟨built, refused⟩
    · have once : ∀ parameter ∈ assembly.told.parameters, ¬ BeginsTwice parameter.name :=
        fun parameter member twice => doubled ⟨parameter, member, twice⟩
      have same := Schema.finish_of_alone _ assembly.build (assembly.numberColumns_told once)
      refine iff_of_true ?_ (.inl once)
      rw [same]
      cases outcome : assembly.build.validate with
      | error error => exact .inl ⟨⟨error, outcome⟩, error, rfl⟩
      | ok => exact .inr ⟨outcome, rfl⟩

/-- A function that has a parameter of this name. -/
def recent (parameter : String) : Assembly :=
  .function "Recent" [.parameter parameter "date", .column "Id" "int"]

/-- A function that is read from a document with the keys in another order and some left out. -/
theorem interchangeable_iff_recent :
    let document : Document := .record [("functions", .list [.record [
      ("columns", .list [.record [("typ", .text "int"), ("name", .text "Id")]]),
      ("parameters", .list [.record [("name", .text "@since"), ("type", .text "date")]]),
      ("name", .text "Recent")]])]
    Schema.ofDocument? .json (recent "@since").told.alone.document =
      some (recent "@since").told.alone ∧
    Schema.ofDocument? .toml document = some (recent "@since").told.alone ∧
    Interchangeable (recent "@since").build (Schema.load .toml (some document)) := by
  intro document
  have held : Schema.ofDocument? .toml document = some (recent "@since").told.alone := by
    decide +kernel
  have once : ∀ parameter ∈ (recent "@since").told.parameters, ¬ BeginsTwice parameter.name := by
    decide +kernel
  refine ⟨?_, held, ?_⟩
  · exact (interchangeable_iff (recent "@since") .json).1 _ (.refl _)
  · exact ((interchangeable_iff (recent "@since") .toml).2 document held).2 (.inl once)

/-- Of two at signs the function that is built keeps none, and the one that is read keeps one. -/
theorem exists_not_interchangeable :
    ∃ (assembly : Assembly) (document : Document),
      Schema.ofDocument? .json document = some assembly.told.alone ∧
      assembly.build.validate = .ok () ∧
      Schema.load .json (some document) = .error (.invalidIdentifier "@since") ∧
      ¬ Interchangeable assembly.build (Schema.load .json (some document)) := by
  have built : (recent "@@since").build.validate = .ok () := by decide +kernel
  have loaded : Schema.load .json (some (recent "@@since").told.alone.document) =
      .error (.invalidIdentifier "@since") := by decide +kernel
  refine ⟨recent "@@since", _, by decide +kernel, built, loaded, ?_⟩
  rintro (⟨⟨error, refused⟩, -⟩ | ⟨-, accepted⟩)
  · rw [built] at refused
    cases refused
  · rw [loaded] at accepted
    cases accepted

end Assembly

end DataAccess

import DataAccess.Proofs.Document.Reading
import DataAccess.Proofs.Schema.Completion
import DataAccess.Schema.Document
import DataAccess.Settings.Document
import Mathlib.Data.List.Nodup

/-!
Schemas and settings are read back from the documents that they are written as. The positions of
columns are not written and are all zero in what is read, until the schema is completed.
-/
set_option autoImplicit false

namespace DataAccess

open Document
open Sql

section Schemas

variable (format : DocumentFormat)

theorem Column.reads_document (column : Column) :
    column.document.Reads (Column.ofDocument? format) column.unplaced := by
  apply reads_structure format ⟨by decide, by decide⟩ rfl
  intro fields carry
  have name := carry.required "name" rfl (reads_text column.name)
  have declaredType := carry.required "type" rfl (reads_text column.declaredType)
  have nullable := carry.defaulted "nullable" rfl (reads_flag column.nullable) false
  rw [name, declaredType, nullable]
  rfl

theorem reads_optionalText (value : Option String) :
    (ofOption text value).Reads (orNull? text?) value :=
  reads_ofOption rfl reads_text value

theorem Unique.reads_document (unique : Unique) :
    unique.document.Reads (Unique.ofDocument? format) unique := by
  apply reads_structure format ⟨by decide, by decide⟩ rfl
  intro fields carry
  have name := carry.optional "name" rfl (reads_optionalText unique.name)
  have columns := carry.required "columns" rfl (reads_texts unique.columns)
  rw [name, columns]
  rfl

theorem ForeignKey.reads_document (key : ForeignKey) :
    key.document.Reads (ForeignKey.ofDocument? format) key := by
  apply reads_structure format ⟨by decide, by decide⟩ rfl
  intro fields carry
  have name := carry.optional "name" rfl (reads_optionalText key.name)
  have columns := carry.required "columns" rfl (reads_texts key.columns)
  have target := carry.required "references" rfl (reads_text key.target)
  rw [name, columns, target]
  rfl

theorem Parameter.reads_document (parameter : Parameter) :
    parameter.document.Reads (Parameter.ofDocument? format) parameter := by
  apply reads_structure format ⟨by decide, by decide⟩ rfl
  intro fields carry
  have name := carry.required "name" rfl (reads_text parameter.name)
  have declaredType := carry.required "type" rfl (reads_text parameter.declaredType)
  rw [name, declaredType]
  rfl

/-- A heading is read from fields of any structure that begins with one. -/
theorem Heading.ofFields?_eq (heading : Heading) (own : List (String × Document)) (fields : Fields)
    (carry : fields.Carry (heading.entries ++ own)) :
    Heading.ofFields? format fields = some heading.unplaced := by
  have schema := carry.optional "schema" rfl (reads_optionalText heading.schema)
  have name := carry.required "name" rfl (reads_text heading.name)
  have description := carry.optional "description" rfl (reads_optionalText heading.description)
  have columns := carry.required "columns" rfl
    (reads_list Column.document Column.unplaced heading.columns (Column.reads_document format))
  rw [Heading.ofFields?, schema, name, description, columns]
  rfl

theorem Table.reads_document (table : Table) :
    table.document.Reads (Table.ofDocument? format) table.unplaced := by
  apply reads_structure format ⟨by decide, by decide⟩ rfl
  intro fields carry
  have heading := table.toHeading.ofFields?_eq format _ fields carry
  have primaryKey := carry.optional "primary-key" rfl
    (reads_ofOption rfl reads_texts table.primaryKey)
  have uniques := carry.defaulted "uniques" rfl
    (reads_list Unique.document id table.uniques (Unique.reads_document format)) []
  have foreignKeys := carry.defaulted "foreign-keys" rfl
    (reads_list ForeignKey.document id table.foreignKeys (ForeignKey.reads_document format)) []
  have identity := carry.optional "identity" rfl (reads_optionalText table.identity)
  rw [List.map_id] at uniques foreignKeys
  rw [heading, primaryKey, uniques, foreignKeys, identity]
  rfl

theorem View.reads_document (view : View) :
    view.document.Reads (View.ofDocument? format) view.unplaced := by
  apply reads_structure format ⟨by decide, by decide⟩ rfl
  intro fields carry
  rw [view.toHeading.ofFields?_eq format [] fields (by rwa [List.append_nil])]
  rfl

theorem TableFunction.reads_document (function : TableFunction) :
    function.document.Reads (TableFunction.ofDocument? format) function.unplaced := by
  apply reads_structure format ⟨by decide, by decide⟩ rfl
  intro fields carry
  have heading := function.toHeading.ofFields?_eq format _ fields carry
  have parameters := carry.defaulted "parameters" rfl
    (reads_list Parameter.document id function.parameters (Parameter.reads_document format)) []
  rw [List.map_id] at parameters
  rw [heading, parameters]
  rfl

theorem Schema.reads_document (schema : Schema) :
    schema.document.Reads (Schema.ofDocument? format) schema.unplaced := by
  apply reads_structure format ⟨by decide, by decide⟩ rfl
  intro fields carry
  have tables := carry.defaulted "tables" rfl
    (reads_list Table.document Table.unplaced schema.tables (Table.reads_document format)) []
  have views := carry.defaulted "views" rfl
    (reads_list View.document View.unplaced schema.views (View.reads_document format)) []
  have functions := carry.defaulted "functions" rfl
    (reads_list TableFunction.document TableFunction.unplaced schema.functions
      (TableFunction.reads_document format)) []
  rw [tables, views, functions]
  rfl

end Schemas

/-- What is written and read of a completed schema is completed to the same. -/
theorem Schema.finish_unplaced (given schema : Schema) (accepted : given.finish = .ok schema) :
    schema.unplaced.finish = .ok schema := by
  rw [finish_eq, numberColumns_unplaced, ← finish_eq]
  exact finish_of_finish given schema accepted

section Settings

variable (format : DocumentFormat)

theorem reads_strategy (strategy : RenderStrategy) :
    (text strategy.name).Reads (choice? format RenderStrategy.names) strategy := by
  apply reads_choice
  cases strategy <;> rfl

theorem reads_dialect (dialect : KnownDialect) :
    (text dialect.name).Reads (choice? format KnownDialect.names) dialect := by
  apply reads_choice
  cases dialect <;> rfl

theorem GenerationSettings.reads_document (settings : GenerationSettings) :
    settings.document.Reads (GenerationSettings.ofDocument? format) settings := by
  apply reads_structure format ⟨by decide, by decide⟩ rfl
  intro fields carry
  have strategy := carry.defaulted "render-strategy" rfl
    (reads_strategy format settings.renderStrategy) .literalBlock
  have paging := carry.defaulted "paging" rfl (reads_flag settings.paging) false
  rw [strategy, paging]
  rfl

theorem RelationOverride.reads_document (changes : RelationOverride) :
    changes.document.Reads (RelationOverride.ofDocument? format) changes := by
  apply reads_structure format ⟨by decide, by decide⟩ rfl
  intro fields carry
  have strategy := carry.optional "render-strategy" rfl
    (reads_ofOption rfl (reads_strategy format) changes.renderStrategy)
  have paging := carry.optional "paging" rfl (reads_ofOption rfl reads_flag changes.paging)
  rw [strategy, paging]
  rfl

namespace Overrides

/-- An entry of a new name is put between the others. -/
theorem perm_place (name : String) (value : RelationOverride)
    (entries : List (String × RelationOverride)) (absent : name ∉ entries.map (·.1)) :
    (place name value entries).Perm ((name, value) :: entries) := by
  induction entries with
  | nil => rfl
  | cons entry rest ih =>
    rw [List.map_cons, List.mem_cons, not_or] at absent
    rw [place]
    split
    · rfl
    · split
      · exact ((ih absent.2).cons entry).trans (.swap _ _ _)
      · rename_i notBefore notAfter
        have same : name = entry.1 :=
          String.le_antisymm (String.not_lt.1 notAfter) (String.not_lt.1 notBefore)
        exact absurd same absent.1

theorem perm_foldl_insert (entries : List (String × RelationOverride)) (overrides : Overrides)
    (distinct : ((overrides.entries ++ entries).map (·.1)).Nodup) :
    (entries.foldl (fun overrides entry => overrides.insert entry.1 entry.2)
      overrides).entries.Perm (overrides.entries ++ entries) := by
  induction entries generalizing overrides with
  | nil => simp
  | cons entry rest ih =>
    have absent : entry.1 ∉ overrides.entries.map (·.1) := by
      rw [List.map_append, List.map_cons, List.nodup_middle] at distinct
      exact fun member => (List.nodup_cons.1 distinct).1 (List.mem_append_left _ member)
    have placed : (overrides.insert entry.1 entry.2).entries.Perm (entry :: overrides.entries) :=
      perm_place entry.1 entry.2 overrides.entries absent
    have moved : ((overrides.insert entry.1 entry.2).entries ++ rest).Perm
        (overrides.entries ++ entry :: rest) :=
      (placed.append_right rest).trans List.perm_middle.symm
    rw [List.foldl_cons]
    refine (ih _ ?_).trans moved
    exact (moved.map _).nodup_iff.2 distinct

theorem nodup_names (overrides : Overrides) : (overrides.entries.map (·.1)).Nodup := by
  rw [List.nodup_iff_pairwise_ne, List.pairwise_map]
  apply overrides.ascending.imp
  intro first second before same
  rw [same] at before
  exact String.lt_irrefl second.1 before

/-- Overrides are those of their entries in whatever order. -/
theorem ofList_of_perm (overrides : Overrides) (entries : List (String × RelationOverride))
    (order : entries.Perm overrides.entries) : ofList entries = overrides := by
  have distinct : (entries.map (·.1)).Nodup := (order.map _).nodup_iff.2 overrides.nodup_names
  have placed : (ofList entries).entries.Perm overrides.entries :=
    (perm_foldl_insert entries empty distinct).trans order
  -- Of the same entries there is one ascending list.
  have same : (ofList entries).entries = overrides.entries := by
    apply placed.eq_of_pairwise _ (ofList entries).ascending overrides.ascending
    intro first second _ _ before after
    exact absurd (String.lt_trans before after) (String.lt_irrefl first.1)
  cases overrides
  cases made : ofList entries
  simpa [made] using same

theorem reads_document (overrides : Overrides) :
    overrides.document.Reads (Overrides.ofDocument? format) overrides := by
  intro given rearranged
  -- Relation names are keys of any kind, so the record is read entry by entry, not by fields.
  obtain ⟨aligned, others, rfl, same, order⟩ := (rearranged_record_iff _ _).1 rearranged
  rw [List.forall₂_map_left_iff] at same
  have steps : List.Forall₂ (fun entry value =>
      (RelationOverride.ofDocument? format entry.2).map (entry.1, ·) = some value)
      aligned overrides.entries := by
    refine same.flip.imp ?_
    rintro ⟨key, document⟩ ⟨name, changes⟩ ⟨rfl, arranged⟩
    rw [changes.reads_document format document arranged]
    rfl
  obtain ⟨entries, found, moved⟩ := List.perm_comp_forall₂ order.symm steps
  rw [ofDocument?, (mapM_eq_some_iff _ _ _).2 found]
  exact congrArg some (ofList_of_perm overrides entries moved)

end Overrides

theorem Settings.reads_document (settings : Settings) :
    settings.document.Reads (Settings.ofDocument? format) settings := by
  apply reads_structure format ⟨by decide, by decide⟩ rfl
  intro fields carry
  have dialect := carry.defaulted "dialect" rfl
    (reads_dialect format settings.dialect) .sqlServer
  have defaults := carry.defaulted "defaults" rfl (settings.defaults.reads_document format) {}
  have relations := carry.defaulted "relations" rfl
    (settings.relations.reads_document format) .empty
  have insertExclusions := carry.defaulted "insert-exclusions" rfl
    (reads_texts settings.insertExclusions) []
  have updateExclusions := carry.defaulted "update-exclusions" rfl
    (reads_texts settings.updateExclusions) []
  rw [dialect, defaults, relations, insertExclusions, updateExclusions]
  rfl

end Settings

/-- Completed schemas and settings are read back as they were from what is written of them, in any
order of the entries of a record. -/
theorem documents_read_back :
    (∀ given schema : Schema, given.finish = .ok schema →
      ∀ document, schema.document.Rearranged document →
        Schema.load .json (some document) = .ok schema) ∧
    ∀ (settings : Settings) (document : Document), settings.document.Rearranged document →
      Settings.ofDocument? .json document = some settings := by
  constructor
  · intro given schema accepted document rearranged
    rw [Schema.load, Option.bind_some, schema.reads_document .json document rearranged]
    exact Schema.finish_unplaced given schema accepted
  · exact fun settings document => settings.reads_document .json document

/-- Settings with two overrides that leave something unset. -/
def shopSettings : Settings where
  dialect := .oracle
  relations := .ofList [("shop.Orders", { paging := some true }),
    ("Recent", { renderStrategy := some .incrementalAppend })]
  updateExclusions := ["Note"]

/-- What is written of the shop and of its settings, the keys of the shop in another order. -/
theorem documents_read_back_shop :
    shop.finish = .ok shop.numberColumns ∧
    Schema.load .json (some (record [
      ("functions", list (shop.numberColumns.functions.map TableFunction.document)),
      ("tables", list (shop.numberColumns.tables.map Table.document)),
      ("views", list (shop.numberColumns.views.map View.document))])) = .ok shop.numberColumns ∧
    Settings.ofDocument? .json shopSettings.document = some shopSettings := by
  have accepted : shop.finish = .ok shop.numberColumns := by decide +kernel
  refine ⟨accepted, ?_, documents_read_back.2 shopSettings _ (.refl _)⟩
  apply documents_read_back.1 shop shop.numberColumns accepted
  apply rearranged_of_perm
  exact List.perm_append_singleton ("functions", _) [("tables", _), ("views", _)]

end DataAccess

import DataAccess.Proofs.Method.Comparison
import DataAccess.Proofs.Schema.WellFormed

/-!
How far settings reach. The render strategy changes how the text of a method is written and nothing
else, paging is for reading all rows of a table, and columns are excluded from inserts or from
updates. An operation that a setting is not for comes to the same method or to the same error under
all values of the setting.
-/
set_option autoImplicit false

namespace DataAccess

open Sql

/-- The operation with or without paging. -/
def Operation.paged (operation : Operation) (paging : Bool) : Operation :=
  { operation with settings := { operation.settings with paging } }

/-- Whether an operation reads all rows of a table, which it may do by pages. -/
def Operation.ReadsTable (operation : Operation) : Prop :=
  operation.kind = .readAll ∧ ∃ table, operation.relation = .table table

namespace Synthesizer

/-- The synthesizer with other columns excluded from inserts and from updates. -/
def excluding (synthesizer : Synthesizer) (fromInsert fromUpdate : List String) : Synthesizer :=
  { synthesizer with
    settings := { synthesizer.settings with
      insertExclusions := fromInsert, updateExclusions := fromUpdate } }

/-- A synthesizer that makes of a changed operation, part by part, what another one makes of the
operation. -/
structure SameParts (synthesizer other : Synthesizer) (operation changed : Operation) : Prop where
  relation : changed.relation = operation.relation
  sigil : other.dialect.sigil = synthesizer.dialect.sigil
  render : other.conventions.render changed = synthesizer.conventions.render operation
  bind : other.conventions.bind changed = synthesizer.conventions.bind operation
  assemble : ∀ statement bindings, other.conventions.assemble changed statement bindings =
    synthesizer.conventions.assemble operation statement bindings

variable {synthesizer other : Synthesizer} {operation changed : Operation}

theorem SameParts.verify_eq (same : SameParts synthesizer other operation changed)
    (method : Method) : other.verify method = synthesizer.verify method := by
  unfold verify
  rw [same.sigil]

theorem SameParts.synthesizeOperation_eq (same : SameParts synthesizer other operation changed) :
    other.synthesizeOperation changed = synthesizer.synthesizeOperation operation := by
  unfold synthesizeOperation synthesizeValidated
  simp only [same.relation, same.render, same.bind, same.assemble, same.verify_eq]

/-- Only reading all rows of a table asks whether to page. -/
theorem sameParts_paged (paging : Bool) (unpaged : ¬ operation.ReadsTable) :
    SameParts synthesizer synthesizer operation (operation.paged paging) := by
  obtain ⟨kind, relation, unique, settings⟩ := operation
  cases kind with
  | readAll =>
    cases relation with
    | table table => exact absurd ⟨rfl, table, rfl⟩ unpaged
    | view view | function function => exact ⟨rfl, rfl, rfl, rfl, fun _ _ => rfl⟩
  | readByKey | readByUnique | insert | update | delete =>
    exact ⟨rfl, rfl, rfl, rfl, fun _ _ => rfl⟩

/-- Only inserts and updates ask for excluded columns, each for its own. -/
theorem sameParts_excluding {fromInsert fromUpdate : List String}
    (inserts : operation.kind = .insert → fromInsert = synthesizer.settings.insertExclusions)
    (updates : operation.kind = .update → fromUpdate = synthesizer.settings.updateExclusions) :
    SameParts synthesizer (synthesizer.excluding fromInsert fromUpdate) operation operation := by
  obtain ⟨kind, relation, unique, settings⟩ := operation
  cases kind with
  | insert =>
    rw [inserts rfl]
    exact ⟨rfl, rfl, rfl, rfl, fun _ _ => rfl⟩
  | update =>
    rw [updates rfl]
    exact ⟨rfl, rfl, rfl, rfl, fun _ _ => rfl⟩
  | readAll | readByKey | readByUnique | delete =>
    exact ⟨rfl, rfl, rfl, rfl, fun _ _ => rfl⟩

/-- Under two render strategies a method has the same canonical text. -/
theorem agree_rendered (synthesizer : Synthesizer) (operation : Operation)
    (strategy : RenderStrategy) :
    Agree (fun method other => method.Alike other ∧ other.body.sql = method.body.sql ∧
        other.body.query.normalized = method.body.query.normalized)
      (synthesizer.synthesizeOperation operation)
      (synthesizer.synthesizeOperation (operation.rendered strategy)) := by
  have rendered : Agree (fun statement text => text = statement)
      (synthesizer.conventions.render operation) (synthesizer.conventions.render operation) :=
    agree_refl _ fun _ => rfl
  have placed : ∀ statement text : Statement, text = statement →
      placeholders text.sql synthesizer.dialect.sigil =
        placeholders statement.sql synthesizer.dialect.sigil := by
    rintro statement text rfl
    rfl
  unfold synthesizeOperation
  apply agree_bind
  rintro ⟨⟩
  apply (synthesizer.agree_synthesizeValidated synthesizer.dialect operation strategy _ rendered
    placed).imp
  rintro method other ⟨alike, statement, text, bindings, rfl, carries, others⟩
  refine ⟨alike, ?_, ?_⟩
  · rw [others.sql, carries.sql]
  · rw [others.normalized, carries.normalized]

/-- No setting changes what it is not for. -/
theorem settings_reach (synthesizer : Synthesizer) (operation : Operation) :
    (∀ strategy, Agree (fun method other => method.Alike other ∧
        other.body.sql = method.body.sql ∧
        other.body.query.normalized = method.body.query.normalized)
      (synthesizer.synthesizeOperation operation)
      (synthesizer.synthesizeOperation (operation.rendered strategy))) ∧
    (∀ paging, ¬ operation.ReadsTable →
      synthesizer.synthesizeOperation (operation.paged paging) =
        synthesizer.synthesizeOperation operation) ∧
    (∀ fromInsert, operation.kind ≠ .insert →
      (synthesizer.excluding fromInsert
        synthesizer.settings.updateExclusions).synthesizeOperation operation =
        synthesizer.synthesizeOperation operation) ∧
    ∀ fromUpdate, operation.kind ≠ .update →
      (synthesizer.excluding synthesizer.settings.insertExclusions
        fromUpdate).synthesizeOperation operation =
        synthesizer.synthesizeOperation operation := by
  refine ⟨synthesizer.agree_rendered operation, ?_, ?_, ?_⟩
  · intro paging unpaged
    exact (sameParts_paged paging unpaged).synthesizeOperation_eq
  · intro fromInsert notInsert
    have inserts : operation.kind = .insert → fromInsert = synthesizer.settings.insertExclusions :=
      fun kind => absurd kind notInsert
    exact (sameParts_excluding inserts fun _ => rfl).synthesizeOperation_eq
  · intro fromUpdate notUpdate
    have updates : operation.kind = .update → fromUpdate = synthesizer.settings.updateExclusions :=
      fun kind => absurd kind notUpdate
    exact (sameParts_excluding (fun _ => rfl) updates).synthesizeOperation_eq

/-- What a deletion comes to under other settings. -/
theorem settings_reach_orders :
    let deletion : Operation := { kind := .delete, relation := .table orders }
    ({} : Synthesizer).synthesizeOperation (deletion.paged true) =
        ({} : Synthesizer).synthesizeOperation deletion ∧
      (({} : Synthesizer).excluding ["Id"] []).synthesizeOperation deletion =
        ({} : Synthesizer).synthesizeOperation deletion ∧
      (({} : Synthesizer).excluding [] ["Id"]).synthesizeOperation deletion =
        ({} : Synthesizer).synthesizeOperation deletion := by
  intro deletion
  obtain ⟨-, paging, inserts, updates⟩ := settings_reach {} deletion
  have notReading : ¬ deletion.ReadsTable := fun reads => absurd reads.1 (by decide)
  exact ⟨paging true notReading, inserts ["Id"] (by decide), updates ["Id"] (by decide)⟩

end Synthesizer

end DataAccess

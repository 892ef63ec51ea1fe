import DataAccess.Proofs.Method.Assembly
import DataAccess.Proofs.Schema.WellFormed
import DataAccess.Proofs.Sql.Placeholders

/-!
A method is checked in the normal form of its text, but generated code runs the raw text. The
placeholders are the same in both, so the check is one of the text that is run.
-/
set_option autoImplicit false

namespace DataAccess

open Sql Text

namespace Synthesizer

/-- In every text of a method that is given out the placeholders are its bindings. -/
theorem placeholders_eq_boundNames (synthesizer : Synthesizer) (operation : Operation)
    (method : Method) (solid : IsSolid synthesizer.dialect.sigil)
    (synthesized : synthesizer.synthesizeOperation operation = .ok method) :
    placeholders method.body.query.text synthesizer.dialect.sigil = method.boundNames ∧
      placeholders method.body.query.normalized synthesizer.dialect.sigil = method.boundNames ∧
      placeholders method.body.sql synthesizer.dialect.sigil = method.boundNames ∧
      method.boundNames.Nodup ∧
      ∀ name ∈ method.boundNames, name ≠ "" ∧ ∀ c ∈ name.toList, isIdentChar c = true := by
  obtain ⟨-, validated⟩ :=
    (synthesizer.synthesizeOperation_eq_ok_iff operation method).1 synthesized
  obtain ⟨statement, bindings, -, -, carries, checked⟩ :=
    synthesizer.exists_of_synthesizeValidated operation method validated
  have canonical : placeholders method.body.sql synthesizer.dialect.sigil = method.boundNames := by
    rw [← checked, carries.query, normalized_write, carries.sql]
  have raw : placeholders method.body.query.text synthesizer.dialect.sigil =
      method.boundNames := by
    rw [← canonical, carries.query, carries.sql, solid.placeholders_write]
  refine ⟨raw, checked, canonical, ?_, ?_⟩
  · rw [← raw, placeholders]
    exact nodup_distinct _
  · intro name member
    rw [← raw, placeholders, mem_distinct] at member
    exact identifier_of_mem_occurrences _ name _ member

/-- The clause that reads an identity back has a system variable, which is no placeholder. -/
theorem placeholders_eq_boundNames_orders :
    ∃ method, ({} : Synthesizer).synthesizeOperation
        { kind := .insert, relation := .table orders } = .ok method ∧
      placeholders method.body.query.text '@' = method.boundNames ∧
      placeholders method.body.sql '@' = method.boundNames := by
  obtain ⟨method, synthesized⟩ := exists_eq_ok_of_toBool
    (({} : Synthesizer).synthesizeOperation { kind := .insert, relation := .table orders })
    (by decide +kernel)
  obtain ⟨raw, -, canonical, -⟩ := placeholders_eq_boundNames {} _ method
    ⟨by decide, by decide, by decide⟩ synthesized
  exact ⟨method, synthesized, raw, canonical⟩

end Synthesizer

end DataAccess

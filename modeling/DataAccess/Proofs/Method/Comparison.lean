import DataAccess.Proofs.Method.Assembly
import DataAccess.Proofs.Sql.Layout

/-!
Two syntheses of one operation, under two dialects or two render strategies. The texts may differ,
and all else is put together from what neither a dialect nor a strategy has a part in. What is left
is the check: it comes out the same where the texts have the same placeholders.
-/
set_option autoImplicit false

namespace DataAccess

open Sql

/-- Methods that differ in their texts at most. -/
structure Method.Alike (method other : Method) : Prop where
  name : other.name = method.name
  kind : other.kind = method.kind
  relation : other.relation = method.relation
  doc : other.doc = method.doc
  parameters : other.parameters = method.parameters
  returns : other.returns = method.returns
  bindings : other.body.bindings = method.body.bindings
  contract : other.body.contract = method.body.contract

/-- The text that is checked is the canonical one. -/
theorem Method.Carries.normalized {method : Method} {strategy : RenderStrategy}
    {statement : Statement} {bindings : List Binding}
    (carries : method.Carries strategy statement bindings) :
    method.body.query.normalized = statement.sql := by
  rw [carries.query, normalized_write]

/-- The operation with its statement written in another way. -/
def Operation.rendered (operation : Operation) (strategy : RenderStrategy) : Operation :=
  { operation with settings := { operation.settings with renderStrategy := strategy } }

/-- The conventions with another dialect. -/
def Conventions.under (conventions : Conventions) (dialect : Dialect) : Conventions :=
  { conventions with dialect }

namespace Conventions

variable (conventions : Conventions) (dialect : Dialect) (operation : Operation)
variable (strategy : RenderStrategy)

theorem render_rendered :
    conventions.render (operation.rendered strategy) = conventions.render operation := rfl

/-- Bindings have names without a sigil. -/
theorem bind_under :
    (conventions.under dialect).bind (operation.rendered strategy) =
      conventions.bind operation := rfl

theorem stepsBefore_under :
    (conventions.under dialect).stepsBefore (operation.rendered strategy) =
      conventions.stepsBefore operation := rfl

/-- What is put together around two statements is alike. -/
theorem agree_assemble (statement other : Statement) (bindings : List Binding) :
    Agree Method.Alike (conventions.assemble operation statement bindings)
      ((conventions.under dialect).assemble (operation.rendered strategy) other bindings) := by
  unfold assemble
  rw [stepsBefore_under]
  apply agree_bind
  intro before
  apply agree_bind
  intro parameters
  exact .ok ⟨rfl, rfl, rfl, rfl, rfl, rfl, rfl, rfl⟩

end Conventions

namespace Synthesizer

/-- The synthesizer with another dialect. -/
def under (synthesizer : Synthesizer) (dialect : Dialect) : Synthesizer :=
  { synthesizer with dialect }

variable (synthesizer : Synthesizer) (dialect : Dialect)

theorem conventions_under :
    (synthesizer.under dialect).conventions = synthesizer.conventions.under dialect := rfl

/-- Alike methods pass or fail the check together if their placeholders are the same. -/
theorem verify_under (method other : Method) (alike : method.Alike other)
    (placed : placeholders other.body.query.normalized dialect.sigil =
      placeholders method.body.query.normalized synthesizer.dialect.sigil) :
    (synthesizer.under dialect).verify other = synthesizer.verify method := by
  have sigil : (synthesizer.under dialect).dialect.sigil = dialect.sigil := rfl
  unfold verify
  rw [sigil, placed, alike.name, alike.bindings]

/-- Synthesis from statements with the same placeholders ends in the same error or in alike
methods. -/
theorem agree_synthesizeValidated (operation : Operation) (strategy : RenderStrategy)
    (same : Statement → Statement → Prop)
    (rendered : Agree same (synthesizer.conventions.render operation)
      ((synthesizer.under dialect).conventions.render operation))
    (placed : ∀ statement other, same statement other →
      placeholders other.sql dialect.sigil =
        placeholders statement.sql synthesizer.dialect.sigil) :
    Agree (fun method other => method.Alike other ∧ ∃ statement text bindings,
        same statement text ∧
        method.Carries operation.settings.renderStrategy statement bindings ∧
        other.Carries strategy text bindings)
      (synthesizer.synthesizeValidated operation)
      ((synthesizer.under dialect).synthesizeValidated (operation.rendered strategy)) := by
  unfold synthesizeValidated
  rw [Conventions.render_rendered]
  apply rendered.bind
  intro statement text _ _ matched
  rw [conventions_under, Conventions.bind_under]
  apply agree_bind
  intro bindings
  apply (synthesizer.conventions.agree_assemble dialect operation strategy statement text
    bindings).bind
  intro method other assembled reassembled alike
  have carries := Conventions.carries_of_assemble _ _ _ _ _ assembled
  have others := Conventions.carries_of_assemble _ _ _ _ _ reassembled
  have found : placeholders other.body.query.normalized dialect.sigil =
      placeholders method.body.query.normalized synthesizer.dialect.sigil := by
    rw [carries.normalized, others.normalized, placed statement text matched]
  rw [synthesizer.verify_under dialect method other alike found]
  apply agree_bind
  intro _
  exact .ok ⟨alike, statement, text, bindings, matched, carries, others⟩

end Synthesizer

end DataAccess

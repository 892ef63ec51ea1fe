import Mathlib.Data.List.Induction

/-!
What a run of steps leaves behind, by induction on the run from its end. A field that steps may set
has the value that was set last.
-/
set_option autoImplicit false

namespace DataAccess

variable {α β σ : Type}

/-- What is told by the last step that tells anything. -/
def lastOf (told : α → Option β) (steps : List α) : Option β :=
  (steps.filterMap told).getLast?

@[simp] theorem lastOf_concat (told : α → Option β) (steps : List α) (step : α) :
    lastOf told (steps ++ [step]) = (told step).or (lastOf told steps) := by
  unfold lastOf
  rw [List.filterMap_append, List.getLast?_append]
  cases last : told step with
  | none => simp [last]
  | some value => simp [last]

/-- A field that each step sets or keeps. -/
theorem foldl_eq_lastOf (apply : σ → α → σ) (field : σ → Option β) (told : α → Option β)
    (each : ∀ state step, field (apply state step) = (told step).or (field state))
    (state : σ) (steps : List α) :
    field (steps.foldl apply state) = (lastOf told steps).or (field state) := by
  induction steps using List.reverseRecOn with
  | nil => rfl
  | append_singleton steps step ih =>
    rw [List.foldl_append, List.foldl_cons, List.foldl_nil, each, ih, lastOf_concat, Option.or_assoc]

/-- A state that can be told from the steps that led to it. -/
theorem foldl_eq_made (apply : σ → α → σ) (made : List α → σ)
    (each : ∀ steps step, apply (made steps) step = made (steps ++ [step])) (steps : List α) :
    steps.foldl apply (made []) = made steps := by
  induction steps using List.reverseRecOn with
  | nil => rfl
  | append_singleton steps step ih =>
    rw [List.foldl_append, ih, List.foldl_cons, List.foldl_nil, each]

end DataAccess

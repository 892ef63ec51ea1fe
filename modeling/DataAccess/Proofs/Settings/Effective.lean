import DataAccess.Proofs.Steps
import DataAccess.Settings.Basic
import Mathlib.Data.List.Basic

/-!
The effective settings of a relation after a run of steps. Of the steps that set the same thing the
last one counts, an override under the full name of the relation counts before one under its plain
name, and what the override leaves unset is as for all relations.
-/
set_option autoImplicit false

namespace DataAccess

open Sql

namespace SettingsStep

/-- What a step sets or adds to. -/
inductive Target where
  | dialect
  | renderStrategy
  | paging
  | override (name : String)
  | insertExclusions
  | updateExclusions
deriving DecidableEq

def target : SettingsStep → Target
  | dialect _ => .dialect
  | renderStrategy _ => .renderStrategy
  | paging _ => .paging
  | relation name _ => .override name
  | excludeFromInsert _ => .insertExclusions
  | excludeFromUpdate _ => .updateExclusions

/-- The render strategy that a step sets for all relations. -/
def strategy? : SettingsStep → Option RenderStrategy
  | renderStrategy strategy => some strategy
  | _ => none

/-- Whether to page, if a step sets it for all relations. -/
def paging? : SettingsStep → Option Bool
  | paging given => some given
  | _ => none

/-- The override that a step sets under a name. -/
def changes? (name : String) : SettingsStep → Option RelationOverride
  | relation given changes => if name = given then some changes else none
  | _ => none

/-- The same steps in another order, but for steps that have one target. -/
inductive Reordered : List SettingsStep → List SettingsStep → Prop where
  | nil : Reordered [] []
  | cons (step : SettingsStep) {steps others : List SettingsStep} (rest : Reordered steps others) :
    Reordered (step :: steps) (step :: others)
  | swap (first second : SettingsStep) (rest : List SettingsStep)
    (apart : first.target ≠ second.target) :
    Reordered (first :: second :: rest) (second :: first :: rest)
  | trans {steps others last : List SettingsStep} (before : Reordered steps others)
    (after : Reordered others last) : Reordered steps last

end SettingsStep

open SettingsStep

namespace Settings

/-- What a run of steps sets for all relations. -/
def defaultsAfter (steps : List SettingsStep) : GenerationSettings where
  renderStrategy := (lastOf strategy? steps).getD .literalBlock
  paging := (lastOf paging? steps).getD false

/-- The override that counts for a relation after a run of steps. -/
def overrideAfter (steps : List SettingsStep) (relation : Relation) : Option RelationOverride :=
  (lastOf (changes? relation.fullName) steps).or
    (lastOf (changes? relation.name) steps)

/-- What a run of steps sets for a relation. -/
def effective (steps : List SettingsStep) (relation : Relation) : GenerationSettings where
  renderStrategy := ((overrideAfter steps relation).bind (·.renderStrategy)).getD
    (defaultsAfter steps).renderStrategy
  paging := ((overrideAfter steps relation).bind (·.paging)).getD (defaultsAfter steps).paging

/-- What the effective settings of a relation depend on. -/
def governing (relation : Relation) : List Target :=
  [.renderStrategy, .paging, .override relation.fullName, .override relation.name]

section Runs

theorem defaults_build (steps : List SettingsStep) :
    (build steps).defaults = defaultsAfter steps := by
  have strategy := foldl_eq_lastOf apply (fun settings => some settings.defaults.renderStrategy)
    strategy? (by intro settings step; cases step <;> rfl) {} steps
  have paging := foldl_eq_lastOf apply (fun settings => some settings.defaults.paging)
    paging? (by intro settings step; cases step <;> rfl) {} steps
  rw [Option.or_some, Option.some.injEq] at strategy paging
  unfold build
  cases made : (steps.foldl apply {}).defaults
  rw [made] at strategy paging
  rw [defaultsAfter, ← strategy, ← paging]

/-- Under a name there is the override that was set there last. -/
theorem find?_build (steps : List SettingsStep) (name : String) :
    (build steps).relations.find? name = lastOf (changes? name) steps := by
  have found := foldl_eq_lastOf apply (fun settings => settings.relations.find? name)
    (changes? name) ?step {} steps
  case step =>
    intro settings step
    cases step with
    | relation given changes =>
      simp only [apply, changes?, Overrides.find?_insert]
      split <;> rfl
    | _ => rfl
  unfold build
  rw [found]
  exact Option.or_none

theorem forRelation_build_eq (steps : List SettingsStep) (relation : Relation) :
    (build steps).forRelation relation = effective steps relation := by
  have chosen : (build steps).override? relation = overrideAfter steps relation := by
    rw [Settings.override?, find?_build, find?_build, overrideAfter]
  unfold forRelation
  rw [chosen, defaults_build]
  cases set : overrideAfter steps relation with
  | none => simp [effective, set]
  | some changes => simp [effective, set, GenerationSettings.override]

end Runs

section Targets

variable {steps others : List SettingsStep} {relation : Relation} {target : Target}

/-- Steps with another target tell nothing. -/
def IsAbout {β : Type} (target : Target) (told : SettingsStep → Option β) : Prop :=
  ∀ step, told step ≠ none → step.target = target

theorem isAbout_strategy : IsAbout .renderStrategy strategy? := by
  intro step told
  cases step with
  | renderStrategy strategy => rfl
  | _ => exact absurd rfl told

theorem isAbout_paging : IsAbout .paging paging? := by
  intro step told
  cases step with
  | paging given => rfl
  | _ => exact absurd rfl told

theorem isAbout_override (name : String) :
    IsAbout (.override name) (changes? name) := by
  intro step told
  cases step with
  | relation given changes =>
    simp only [changes?] at told
    by_cases same : name = given
    · rw [same, SettingsStep.target]
    · simp [same] at told
  | _ => exact absurd rfl told

/-- Two runs that tell the same about each target that governs a relation. -/
theorem effective_congr
    (same : ∀ {β : Type} (told : SettingsStep → Option β), ∀ target ∈ governing relation,
      IsAbout target told → lastOf told others = lastOf told steps) :
    effective others relation = effective steps relation := by
  have strategy := same strategy? .renderStrategy (by simp [governing]) isAbout_strategy
  have paging := same paging? .paging (by simp [governing]) isAbout_paging
  have full := same _ (.override relation.fullName) (by simp [governing]) (isAbout_override _)
  have plain := same _ (.override relation.name) (by simp [governing]) (isAbout_override _)
  simp only [effective, overrideAfter, defaultsAfter, strategy, paging, full, plain]

theorem lastOf_filter {β : Type} {told : SettingsStep → Option β} (about : IsAbout target told)
    (keeps : SettingsStep → Bool) (kept : ∀ step, step.target = target → keeps step = true) :
    lastOf told (steps.filter keeps) = lastOf told steps := by
  unfold lastOf
  rw [List.filterMap_filter]
  congr 1
  apply List.filterMap_congr
  intro step _
  by_cases silent : told step = none
  · simp [silent]
  · simp [kept step (about step silent)]

/-- Only steps with different targets change places, and of these one at most tells something. -/
theorem filterMap_of_reordered {β : Type} {told : SettingsStep → Option β}
    (about : IsAbout target told) (reordered : Reordered steps others) :
    others.filterMap told = steps.filterMap told := by
  induction reordered with
  | nil => rfl
  | cons step rest ih => rw [List.filterMap_cons, List.filterMap_cons, ih]
  | swap first second rest apart =>
    have silent : told first = none ∨ told second = none := by
      by_cases quiet : told first = none
      · exact .inl quiet
      · apply Or.inr
        by_contra tells
        exact apart ((about first quiet).trans (about second tells).symm)
    cases silent with
    | inl quiet => simp only [List.filterMap_cons, quiet]
    | inr quiet => simp only [List.filterMap_cons, quiet]
  | trans before after first second => exact second.trans first

end Targets

/-- The effective settings of a relation are those of the last steps that set them. Steps with other
targets do not count, and neither does the order of steps with different targets. -/
theorem forRelation_build (steps : List SettingsStep) (relation : Relation) :
    (build steps).forRelation relation = effective steps relation ∧
    (∀ others : List SettingsStep,
      others.filter (·.target ∈ governing relation) =
        steps.filter (·.target ∈ governing relation) →
      (build others).forRelation relation = (build steps).forRelation relation) ∧
    ∀ others, Reordered steps others →
      (build others).forRelation relation = (build steps).forRelation relation := by
  refine ⟨forRelation_build_eq steps relation, ?filtered, ?reordered⟩
  case filtered =>
    intro others same
    rw [forRelation_build_eq, forRelation_build_eq]
    apply effective_congr
    intro β told target among about
    have kept : ∀ step : SettingsStep, step.target = target →
        decide (step.target ∈ governing relation) = true := by
      intro step aimed
      rw [aimed]
      exact decide_eq_true among
    rw [← lastOf_filter about _ kept, same, lastOf_filter about _ kept]
  case reordered =>
    intro others reordered
    rw [forRelation_build_eq, forRelation_build_eq]
    apply effective_congr
    intro β told target _ about
    rw [lastOf, filterMap_of_reordered about reordered, lastOf]

/-- An override under the full name hides one under the plain name though it sets nothing. -/
theorem forRelation_build_orders :
    let orders : Relation := .table { schema := some "shop", name := "Orders" }
    let rest : List SettingsStep := [.relation "Orders" { paging := some false }]
    let steps : List SettingsStep := .paging true :: .relation "shop.Orders" {} :: rest
    (build steps).forRelation orders = { renderStrategy := .literalBlock, paging := true } ∧
    (build (steps ++ [.relation "Parcels" { paging := some false }, .excludeFromInsert "Id",
      .dialect .oracle])).forRelation orders = (build steps).forRelation orders ∧
    (build (.relation "shop.Orders" {} :: .paging true :: rest)).forRelation orders =
      (build steps).forRelation orders := by
  intro orders rest steps
  obtain ⟨value, filtered, reordered⟩ := forRelation_build steps orders
  refine ⟨?_, ?_, ?_⟩
  · rw [value]
    decide +kernel
  · apply filtered
    decide +kernel
  · apply reordered
    exact .swap _ _ rest (by decide)

end Settings

end DataAccess

import Mathlib.Data.List.Forall2

/-!
Computations that end in a value or in an error, taken apart: what is known of the parts of a
sequence or of a traversal when the whole has ended one way or the other.
-/
set_option autoImplicit false

namespace DataAccess

variable {ε α β : Type}

@[simp] theorem pure_eq_ok_iff (given value : α) :
    (pure given : Except ε α) = .ok value ↔ given = value := by
  simp [pure, Except.pure]

@[simp] theorem pure_ne_error (given : α) (failure : ε) :
    ¬ (pure given : Except ε α) = .error failure := by
  simp [pure, Except.pure]

@[simp] theorem ok_bind (value : α) (next : α → Except ε β) :
    (Except.ok value >>= next) = next value := rfl

@[simp] theorem error_bind (failure : ε) (next : α → Except ε β) :
    (Except.error failure >>= next) = .error failure := rfl

theorem bind_eq_ok_iff (first : Except ε α) (next : α → Except ε β) (value : β) :
    (first >>= next) = .ok value ↔ ∃ middle, first = .ok middle ∧ next middle = .ok value := by
  cases first <;> simp

theorem bind_eq_error_iff (first : Except ε α) (next : α → Except ε β) (failure : ε) :
    (first >>= next) = .error failure ↔
      first = .error failure ∨ ∃ middle, first = .ok middle ∧ next middle = .error failure := by
  cases first <;> simp

theorem exists_eq_ok_of_toBool (outcome : Except ε α) (success : outcome.toBool = true) :
    ∃ value, outcome = .ok value := by
  cases outcome with
  | error failure => cases success
  | ok value => exact ⟨value, rfl⟩

theorem exists_eq_ok_of_any (outcome : Except ε α) (test : α → Bool)
    (passed : outcome.toOption.any test = true) :
    ∃ value, outcome = .ok value ∧ test value = true := by
  cases outcome with
  | error failure => cases passed
  | ok value => exact ⟨value, rfl, passed⟩

/-- Items that all stay the same make the same list. -/
theorem map_eq_self {change : α → α} {items : List α}
    (each : ∀ item ∈ items, change item = item) : items.map change = items :=
  (List.map_congr_left each).trans (List.map_id' items)

theorem mapM_congr {step other : α → Except ε β} (items : List α)
    (same : ∀ item ∈ items, step item = other item) : items.mapM step = items.mapM other := by
  induction items with
  | nil => rfl
  | cons item rest ih =>
    rw [List.mapM_cons, List.mapM_cons, same item List.mem_cons_self,
      ih fun other member => same other (List.mem_cons_of_mem _ member)]

/-- A traversal succeeds where each of its steps does. -/
theorem mapM_eq_ok_iff (step : α → Except ε β) (items : List α) (values : List β) :
    items.mapM step = .ok values ↔
      List.Forall₂ (fun item value => step item = .ok value) items values := by
  induction items generalizing values with
  | nil => cases values <;> simp
  | cons item rest ih =>
    rw [List.mapM_cons, bind_eq_ok_iff]
    constructor
    · rintro ⟨value, head, later⟩
      obtain ⟨tail, success, same⟩ := (bind_eq_ok_iff _ _ _).1 later
      rw [← (pure_eq_ok_iff _ _).1 same]
      exact .cons head ((ih tail).1 success)
    · rintro (_ | ⟨head, tail⟩)
      exact ⟨_, head, (bind_eq_ok_iff _ _ _).2 ⟨_, (ih _).2 tail, rfl⟩⟩

/-- A traversal finds all values where each of its steps finds one. -/
theorem mapM_eq_some_iff (step : α → Option β) (items : List α) (values : List β) :
    items.mapM step = some values ↔
      List.Forall₂ (fun item value => step item = some value) items values := by
  induction items generalizing values with
  | nil => cases values <;> simp
  | cons item rest ih =>
    rw [List.mapM_cons]
    simp only [Option.bind_eq_bind, Option.bind_eq_some_iff, Option.pure_def, Option.some.injEq, ih]
    constructor
    · rintro ⟨value, head, tail, later, rfl⟩
      exact .cons head later
    · rintro (_ | ⟨head, tail⟩)
      exact ⟨_, head, _, tail, rfl⟩

theorem exists_mapM_eq_ok_iff (step : α → Except ε β) (items : List α) :
    (∃ values, items.mapM step = .ok values) ↔ ∀ item ∈ items, ∃ value, step item = .ok value := by
  constructor
  · rintro ⟨values, success⟩ item member
    obtain ⟨index, bound, rfl⟩ := List.getElem_of_mem member
    have pairs := (mapM_eq_ok_iff step items values).1 success
    exact ⟨_, pairs.get bound (pairs.length_eq ▸ bound)⟩
  · intro succeeds
    induction items with
    | nil => exact ⟨[], rfl⟩
    | cons item rest ih =>
      obtain ⟨value, head⟩ := succeeds item List.mem_cons_self
      obtain ⟨values, tail⟩ := ih fun other member => succeeds other (List.mem_cons_of_mem _ member)
      refine ⟨value :: values, ?_⟩
      rw [List.mapM_cons, head, tail]
      rfl

/-- A step fails at an item and succeeds at all items before it. -/
def FailsFirst (step : α → Except ε β) (items : List α) (failure : ε) : Prop :=
  ∃ before item after, items = before ++ item :: after ∧
    (∀ earlier ∈ before, ∃ value, step earlier = .ok value) ∧ step item = .error failure

/-- The error of a traversal is that of the first step that fails. -/
theorem mapM_eq_error_iff (step : α → Except ε β) (items : List α) (failure : ε) :
    items.mapM step = .error failure ↔ FailsFirst step items failure := by
  unfold FailsFirst
  induction items with
  | nil => simp
  | cons first rest ih =>
    rw [List.mapM_cons, bind_eq_error_iff]
    simp only [bind_eq_error_iff, pure_ne_error, and_false, exists_false, or_false, ih]
    constructor
    · rintro (fault | ⟨value, head, before, item, after, rfl, succeeds, fault⟩)
      · exact ⟨[], first, rest, rfl, by simp, fault⟩
      · refine ⟨first :: before, item, after, rfl, ?_, fault⟩
        exact List.forall_mem_cons.2 ⟨⟨value, head⟩, succeeds⟩
    · rintro ⟨before, item, after, cut, succeeds, fault⟩
      cases before with
      | nil =>
        obtain ⟨rfl, -⟩ := List.cons.inj cut
        exact .inl fault
      | cons earlier before =>
        obtain ⟨rfl, rest⟩ := List.cons.inj cut
        obtain ⟨⟨value, head⟩, later⟩ := List.forall_mem_cons.1 succeeds
        exact .inr ⟨value, head, before, item, after, rest, later, fault⟩

/-- The error of a traversal is that of one of its steps. -/
theorem exists_of_mapM_eq_error (step : α → Except ε β) (items : List α) (failure : ε)
    (failed : items.mapM step = .error failure) : ∃ item ∈ items, step item = .error failure := by
  obtain ⟨before, item, after, rfl, -, fault⟩ := (mapM_eq_error_iff step items failure).1 failed
  exact ⟨item, by simp, fault⟩

/-- Every value is related to one of the items. -/
theorem exists_of_mem_forall₂ {related : α → β → Prop} {items : List α} {values : List β}
    (pairs : List.Forall₂ related items values) (value : β) (member : value ∈ values) :
    ∃ item ∈ items, related item value := by
  obtain ⟨index, bound, rfl⟩ := List.getElem_of_mem member
  have inside : index < items.length := pairs.length_eq ▸ bound
  exact ⟨items[index], List.getElem_mem inside, pairs.get inside bound⟩

/-- Every value of a traversal is that of one of its steps. -/
theorem exists_of_mem_mapM (step : α → Except ε β) (items : List α) (values : List β)
    (success : items.mapM step = .ok values) (value : β) (member : value ∈ values) :
    ∃ item ∈ items, step item = .ok value :=
  exists_of_mem_forall₂ ((mapM_eq_ok_iff step items values).1 success) value member

/-- What holds of the values of a traversal, said of the items that they are made from. -/
theorem forall_mem_iff_of_mapM_eq_ok (step : α → Except ε β) (P : β → Prop) (Q : α → Prop)
    (items : List α) (values : List β) (success : items.mapM step = .ok values)
    (each : ∀ item ∈ items, ∀ value, step item = .ok value → (P value ↔ Q item)) :
    (∀ value ∈ values, P value) ↔ ∀ item ∈ items, Q item := by
  have pairs := (mapM_eq_ok_iff step items values).1 success
  induction pairs with
  | nil => simp
  | cons head tail ih =>
    rw [List.forall_mem_cons, List.forall_mem_cons]
    apply and_congr
    · exact each _ List.mem_cons_self _ head
    · exact ih ((mapM_eq_ok_iff step _ _).2 tail) fun item member =>
        each item (List.mem_cons_of_mem _ member)

/-- What is the same of related items and values is the same of their lists. -/
theorem map_eq_of_forall₂ {γ : Type} {related : α → β → Prop} (part : β → γ) (source : α → γ)
    (each : ∀ item value, related item value → part value = source item) {items : List α}
    {values : List β} (pairs : List.Forall₂ related items values) :
    values.map part = items.map source := by
  induction pairs with
  | nil => rfl
  | cons head tail ih => rw [List.map_cons, List.map_cons, each _ _ head, ih]

/-- What each step of a traversal puts into its value is in the values of the whole. -/
theorem map_eq_of_mapM_eq_ok {γ : Type} (step : α → Except ε β) (part : β → γ) (source : α → γ)
    (each : ∀ item value, step item = .ok value → part value = source item) (items : List α)
    (values : List β) (success : items.mapM step = .ok values) :
    values.map part = items.map source :=
  map_eq_of_forall₂ part source each ((mapM_eq_ok_iff step items values).1 success)

/-- A traversal whose steps each find something and make their value of it. -/
theorem mapM_eq_ok_iff_exists_map {γ : Type} (step : α → Except ε β) (fits : α → γ → Prop)
    (make : γ → β)
    (each : ∀ item value, step item = .ok value ↔ ∃ found, fits item found ∧ make found = value)
    (items : List α) (values : List β) :
    items.mapM step = .ok values ↔
      ∃ founds, List.Forall₂ fits items founds ∧ founds.map make = values := by
  simp only [mapM_eq_ok_iff, each]
  constructor
  · intro pairs
    induction pairs with
    | nil => exact ⟨[], .nil, rfl⟩
    | cons head tail ih =>
      obtain ⟨found, fit, rfl⟩ := head
      obtain ⟨founds, fitted, rfl⟩ := ih
      exact ⟨found :: founds, .cons fit fitted, rfl⟩
  · rintro ⟨founds, fitted, rfl⟩
    induction fitted with
    | nil => exact .nil
    | cons fit rest ih => exact .cons ⟨_, fit, rfl⟩ ih

/-- Two outcomes that are the same failure, or values that are related. -/
inductive Agree {γ : Type} (related : α → γ → Prop) : Except ε α → Except ε γ → Prop where
  | error (failure : ε) : Agree related (.error failure) (.error failure)
  | ok {value : α} {other : γ} (same : related value other) :
    Agree related (.ok value) (.ok other)

section Agreement

variable {γ δ ζ : Type} {related : α → γ → Prop} {result : δ → ζ → Prop}

/-- An outcome agrees with itself. -/
theorem agree_refl {related : α → α → Prop} (outcome : Except ε α)
    (same : ∀ value, related value value) : Agree related outcome outcome := by
  cases outcome with
  | error failure => exact .error failure
  | ok value => exact .ok (same value)

theorem Agree.bind {first : Except ε α} {second : Except ε γ} (agree : Agree related first second)
    {next : α → Except ε δ} {later : γ → Except ε ζ}
    (after : ∀ value other, first = .ok value → second = .ok other → related value other →
      Agree result (next value) (later other)) :
    Agree result (first >>= next) (second >>= later) := by
  cases agree with
  | error failure => exact .error failure
  | ok same => exact after _ _ rfl rfl same

/-- Outcomes agree that begin with the same and agree from there on. -/
theorem agree_bind (first : Except ε α) {next : α → Except ε δ} {later : α → Except ε ζ}
    (after : ∀ value, Agree result (next value) (later value)) :
    Agree result (first >>= next) (first >>= later) := by
  cases first with
  | error failure => exact .error failure
  | ok value => exact after value

theorem Agree.imp {first : Except ε α} {second : Except ε γ} (agree : Agree related first second)
    {wider : α → γ → Prop} (each : ∀ value other, related value other → wider value other) :
    Agree wider first second := by
  cases agree with
  | error failure => exact .error failure
  | ok same => exact .ok (each _ _ same)

theorem Agree.exists_of_ok {first : Except ε α} {second : Except ε γ}
    (agree : Agree related first second) {value : α} (success : first = .ok value) :
    ∃ other, second = .ok other ∧ related value other := by
  cases agree with
  | error failure => cases success
  | ok same =>
    cases success
    exact ⟨_, rfl, same⟩

end Agreement

end DataAccess

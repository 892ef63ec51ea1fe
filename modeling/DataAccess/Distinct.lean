/-!
Lists without repetitions: of the elements with one key only the first is kept.
-/
set_option autoImplicit false

namespace DataAccess

/-- The elements whose key no earlier element has, in order. -/
def distinctBy {α β : Type} [DecidableEq β] (key : α → β) : List α → List α
  | [] => []
  | x :: rest => x :: (distinctBy key rest).filter fun y => key y != key x

def distinct {α : Type} [DecidableEq α] (items : List α) : List α :=
  distinctBy id items

variable {α β : Type} [DecidableEq β] (key : α → β)

theorem distinctBy_sublist (items : List α) : (distinctBy key items).Sublist items := by
  induction items with
  | nil => exact .slnil
  | cons x rest ih => exact (List.filter_sublist.trans ih).cons_cons x

theorem distinctBy_pairwise (items : List α) :
    (distinctBy key items).Pairwise fun x y => key x ≠ key y := by
  induction items with
  | nil => exact .nil
  | cons x rest ih =>
    refine .cons ?_ (ih.filter _)
    intro y member
    simp only [List.mem_filter, bne_iff_ne, ne_eq] at member
    exact fun same => member.2 same.symm

theorem distinct_cons {α : Type} [DecidableEq α] (x : α) (rest : List α) :
    distinct (x :: rest) = x :: (distinct rest).filter fun y => y != x := rfl

theorem nodup_distinct {α : Type} [DecidableEq α] (items : List α) : (distinct items).Nodup :=
  distinctBy_pairwise id items

@[simp] theorem mem_distinct {α : Type} [DecidableEq α] (item : α) (items : List α) :
    item ∈ distinct items ↔ item ∈ items := by
  induction items with
  | nil => simp [distinct, distinctBy]
  | cons x rest ih =>
    rw [distinct_cons, List.mem_cons, List.mem_filter, ih, List.mem_cons, bne_iff_ne]
    by_cases same : item = x <;> simp [same]

theorem distinct_of_nodup {α : Type} [DecidableEq α] (items : List α) (nodup : items.Nodup) :
    distinct items = items := by
  induction items with
  | nil => rfl
  | cons x rest ih =>
    obtain ⟨absent, tail⟩ := List.nodup_cons.1 nodup
    rw [distinct_cons, ih tail, List.filter_eq_self.2]
    intro y member
    rw [bne_iff_ne]
    rintro rfl
    exact absent member

/-- Dropping elements of some kinds and dropping repetitions can be done in either order. -/
theorem filter_distinct {α : Type} [DecidableEq α] (keep : α → Bool) (items : List α) :
    (distinct items).filter keep = distinct (items.filter keep) := by
  induction items with
  | nil => rfl
  | cons x rest ih =>
    have swap : ((distinct rest).filter fun y => y != x).filter keep =
        (distinct (rest.filter keep)).filter fun y => y != x := by
      rw [← ih, List.filter_filter, List.filter_filter]
      exact List.filter_congr fun y _ => Bool.and_comm _ _
    by_cases kept : keep x = true
    · rw [distinct_cons, List.filter_cons_of_pos kept, List.filter_cons_of_pos kept, distinct_cons,
        swap]
    · have absent : ∀ y ∈ distinct (rest.filter keep), y ≠ x := by
        rintro y member rfl
        rw [mem_distinct, List.mem_filter] at member
        exact kept member.2
      rw [distinct_cons, List.filter_cons_of_neg kept, List.filter_cons_of_neg kept, swap]
      exact List.filter_eq_self.2 fun y member => bne_iff_ne.2 (absent y member)

theorem distinct_eq_eraseDups {α : Type} [DecidableEq α] (items : List α) :
    distinct items = items.eraseDups := by
  induction length : items.length using Nat.strongRecOn generalizing items with
  | ind size ih =>
    cases items with
    | nil => rfl
    | cons x rest =>
      have shorter : (rest.filter fun y => y != x).length < size := by
        have bound := List.length_filter_le (fun y => y != x) rest
        rw [List.length_cons] at length
        omega
      rw [distinct_cons, filter_distinct, List.eraseDups_cons]
      exact congrArg (x :: ·) (ih _ shorter _ rfl)

/-- Of a joined list the later elements are kept that are not among the earlier ones. -/
theorem distinct_append {α : Type} [DecidableEq α] (first second : List α) :
    distinct (first ++ second) =
      distinct first ++ (distinct second).filter fun y => decide (y ∉ first) := by
  induction first with
  | nil =>
    have all : (distinct second).filter (fun y => decide (y ∉ ([] : List α))) = distinct second :=
      List.filter_eq_self.2 (by simp)
    rw [List.nil_append, all]
    rfl
  | cons x rest ih =>
    rw [List.cons_append, distinct_cons, ih, List.filter_append, List.filter_filter,
      distinct_cons, List.cons_append]
    congr 2
    refine List.filter_congr fun y _ => ?_
    by_cases same : y = x <;> simp [same]

theorem distinct_append_of_subset {α : Type} [DecidableEq α] (first second : List α)
    (subset : ∀ y ∈ second, y ∈ first) : distinct (first ++ second) = distinct first := by
  rw [distinct_append, List.filter_eq_nil_iff.2, List.append_nil]
  intro y member
  rw [mem_distinct] at member
  simpa using subset y member

theorem distinct_append_congr {α : Type} [DecidableEq α] {first first' second second' : List α}
    (same : distinct first = distinct first') (same' : distinct second = distinct second') :
    distinct (first ++ second) = distinct (first' ++ second') := by
  rw [distinct_append, distinct_append, same, same']
  congr 1
  refine List.filter_congr fun y _ => ?_
  have members : y ∉ first ↔ y ∉ first' := by
    rw [← mem_distinct y first, same, mem_distinct]
  exact decide_eq_decide.2 members

/-- Elements that come twice in a row come once. -/
theorem distinct_flatMap_twice {α β : Type} [DecidableEq β] (part : α → List β)
    (items : List α) :
    distinct (items.flatMap fun item => part item ++ part item) =
      distinct (items.flatMap part) := by
  induction items with
  | nil => rfl
  | cons item rest ih =>
    rw [List.flatMap_cons, List.flatMap_cons]
    exact distinct_append_congr (distinct_append_of_subset _ _ fun _ member => member) ih

end DataAccess

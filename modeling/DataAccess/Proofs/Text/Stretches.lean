import DataAccess.Proofs.Text.Words

/-!
Stretches are the longest parts of a text that have characters of one kind only. A character of
another kind ends a stretch wherever it stands, so stretches are read on each side of it.
-/
set_option autoImplicit false

namespace DataAccess.Text

/-- The longest parts of a text that have characters of a kind only. -/
def stretches (kind : Char → Bool) (text : List Char) : List (List Char) :=
  (pieces (fun c => !kind c) text).filter fun piece => !piece.isEmpty

/-- A part of a text with characters of a kind only that is not part of a longer one. -/
structure IsStretch (kind : Char → Bool) (text part : List Char) : Prop where
  filled : part ≠ []
  alike : ∀ c ∈ part, kind c = true
  whole : ∃ before after, text = before ++ part ++ after ∧
    (∀ c ∈ before.getLast?, kind c = false) ∧ ∀ c ∈ after.head?, kind c = false

section Stretches

variable {kind : Char → Bool}

@[simp] theorem stretches_nil : stretches kind [] = [] := rfl

theorem stretches_append_border (before after : List Char) (c : Char) (other : kind c = false) :
    stretches kind (before ++ c :: after) = stretches kind before ++ stretches kind after := by
  have cut := pieces_append_cut (fun d => !kind d) before after c (by simp [other])
  rw [stretches, cut, List.filter_append]
  rfl

theorem stretches_of_alike (text : List Char) (filled : text ≠ [])
    (alike : ∀ c ∈ text, kind c = true) : stretches kind text = [text] := by
  have whole := pieces_of_uncut (fun d => !kind d) text fun c member => by simp [alike c member]
  rw [stretches, whole]
  simp [filled]

theorem stretches_of_other (text : List Char) (other : ∀ c ∈ text, kind c = false) :
    stretches kind text = [] := by
  induction text with
  | nil => rfl
  | cons c rest ih =>
    have tail := ih fun d member => other d (List.mem_cons_of_mem c member)
    have begun := stretches_append_border [] rest c (other c List.mem_cons_self)
    rw [List.nil_append] at begun
    rw [begun, tail, stretches_nil, List.append_nil]

theorem eq_of_mem_stretches_of_alike (text stretch : List Char)
    (alike : ∀ c ∈ text, kind c = true) (member : stretch ∈ stretches kind text) :
    stretch = text := by
  by_cases empty : text = []
  · simp [empty] at member
  · rwa [stretches_of_alike text empty alike, List.mem_singleton] at member

/-- The stretches of a text behind a border, if there is one. -/
theorem stretches_append_of_last (before after : List Char)
    (border : ∀ c ∈ before.getLast?, kind c = false) :
    stretches kind (before ++ after) = stretches kind before ++ stretches kind after := by
  rcases List.eq_nil_or_concat before with rfl | ⟨start, c, rfl⟩
  · rfl
  · have other : kind c = false := border c (by simp)
    have ended := stretches_append_border start [] c other
    rw [stretches_nil, List.append_nil] at ended
    rw [List.concat_eq_append, ended, List.append_assoc, List.singleton_append,
      stretches_append_border _ _ c other]

theorem stretches_append_of_head (before after : List Char)
    (border : ∀ c ∈ after.head?, kind c = false) :
    stretches kind (before ++ after) = stretches kind before ++ stretches kind after := by
  cases after with
  | nil => rw [stretches_nil, List.append_nil, List.append_nil]
  | cons c rest =>
    have other : kind c = false := border c rfl
    have begun := stretches_append_border [] rest c other
    rw [stretches_nil, List.nil_append, List.nil_append] at begun
    rw [begun, stretches_append_border before rest c other]

/-- What is taken of a kind ends where characters of another kind begin. -/
theorem span_append_of_head (part rest : List Char) (alike : ∀ c ∈ part, kind c = true)
    (border : ∀ c ∈ rest.head?, kind c = false) :
    (part ++ rest).takeWhile kind = part ∧ (part ++ rest).dropWhile kind = rest := by
  rw [List.takeWhile_append_of_pos alike, List.dropWhile_append_of_pos alike]
  cases rest with
  | nil => simp
  | cons c later => simp [border c rfl]

theorem head?_dropWhile (kind : Char → Bool) (text : List Char) :
    ∀ c ∈ (text.dropWhile kind).head?, kind c = false := by
  intro c first
  have border := List.head?_dropWhile_not kind text
  rwa [Option.mem_def.1 first] at border

theorem mem_stretches_of_isStretch (text part : List Char)
    (stretch : IsStretch kind text part) : part ∈ stretches kind text := by
  obtain ⟨before, after, rfl, last, first⟩ := stretch.whole
  rw [stretches_append_of_head _ after first, stretches_append_of_last before part last,
    stretches_of_alike part stretch.filled stretch.alike]
  simp

/-- A part of a text without the character of a border is on one side of it. -/
theorem infix_of_infix_append_cons (part before after : List Char) (c : Char)
    (absent : c ∉ part) (inside : part <:+: before ++ c :: after) :
    part <:+: before ∨ part <:+: after := by
  rcases List.infix_append_iff.1 inside with left | right | ⟨first, second, rfl, ends, begins⟩
  · exact .inl left
  · rcases List.infix_cons_iff.1 right with start | later
    · cases part with
      | nil => exact .inl (List.nil_infix)
      | cons d rest =>
        have same := (List.cons_prefix_cons.1 start).1
        exact absurd (same ▸ List.mem_cons_self) absent
    · exact .inr later
  · cases second with
    | nil =>
      rw [List.append_nil]
      exact .inl ends.isInfix
    | cons d rest =>
      have same := (List.cons_prefix_cons.1 begins).1
      exact absurd (List.mem_append_right first (same ▸ List.mem_cons_self)) absent

/-- Characters of a kind that stand together are part of one stretch. -/
theorem exists_stretch_of_infix (text part : List Char) (filled : part ≠ [])
    (alike : ∀ c ∈ part, kind c = true) (inside : part <:+: text) :
    ∃ stretch ∈ stretches kind text, part <:+: stretch := by
  induction text using border_induction fun c => !kind c with
  | unbroken text whole =>
    have some : text ≠ [] := by
      rintro rfl
      exact filled (List.eq_nil_of_infix_nil inside)
    have all : ∀ c ∈ text, kind c = true := fun c member => by simpa using whole c member
    exact ⟨text, by rw [stretches_of_alike text some all, List.mem_singleton], inside⟩
  | joined before after c border first second =>
    have other : kind c = false := by simpa using border
    have absent : c ∉ part := by
      intro member
      rw [alike c member] at other
      cases other
    rw [stretches_append_border before after c other]
    rcases infix_of_infix_append_cons part before after c absent inside with left | right
    · obtain ⟨stretch, member, within⟩ := first left
      exact ⟨stretch, List.mem_append_left _ member, within⟩
    · obtain ⟨stretch, member, within⟩ := second right
      exact ⟨stretch, List.mem_append_right _ member, within⟩

/-- A stretch stands in its text. -/
theorem infix_of_mem_stretches (text stretch : List Char)
    (member : stretch ∈ stretches kind text) : stretch <:+: text := by
  induction text using border_induction fun c => !kind c with
  | unbroken text whole =>
    have all : ∀ c ∈ text, kind c = true := fun c inside => by simpa using whole c inside
    obtain rfl := eq_of_mem_stretches_of_alike text stretch all member
    exact List.infix_rfl
  | joined before after c border first second =>
    have other : kind c = false := by simpa using border
    rw [stretches_append_border before after c other, List.mem_append] at member
    rcases member with left | right
    · exact List.infix_append_of_infix_left (first left)
    · exact List.infix_append_of_infix_right (List.infix_cons (second right))

/-- Characters of a kind stand together in a text if they do in one of its stretches. -/
theorem infix_iff_exists_stretch (text part : List Char) (filled : part ≠ [])
    (alike : ∀ c ∈ part, kind c = true) :
    part <:+: text ↔ ∃ stretch ∈ stretches kind text, part <:+: stretch := by
  constructor
  · exact exists_stretch_of_infix text part filled alike
  · rintro ⟨stretch, member, inside⟩
    exact inside.trans (infix_of_mem_stretches text stretch member)

end Stretches

end DataAccess.Text

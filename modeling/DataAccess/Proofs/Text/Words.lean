import DataAccess.Text.Alphanumeric
import DataAccess.Text.Blank

/-!
Words are what a text keeps when only its white space changes. A reading of text that ignores
white space reads a text word by word.
-/
set_option autoImplicit false

namespace DataAccess.Text

/-- Facts about the characters of a text are decided one by one, not for all characters. -/
instance (priority := 2000) decidableForallChar (text : List Char) (P : Char → Prop)
    [DecidablePred P] : Decidable (∀ c ∈ text, P c) :=
  List.decidableBAll P text

instance (priority := 2000) decidableExistsChar (text : List Char) (P : Char → Prop)
    [DecidablePred P] : Decidable (∃ c ∈ text, P c) :=
  List.decidableBEx P text

instance (priority := 2000) decidableForallOption (first : Option Char) (P : Char → Prop)
    [DecidablePred P] : Decidable (∀ c ∈ first, P c) :=
  Option.decidableForallMem first

/-- What holds of texts without a border, and of two texts joined at a border if it holds of both,
holds of every text. -/
theorem border_induction (border : Char → Bool) {P : List Char → Prop}
    (unbroken : ∀ text, (∀ c ∈ text, border c = false) → P text)
    (joined : ∀ before after c, border c = true → P before → P after →
      P (before ++ c :: after))
    (text : List Char) : P text := by
  suffices general : ∀ before, (∀ c ∈ before, border c = false) → P (before ++ text) by
    simpa using general [] (by simp)
  induction text with
  | nil =>
    intro before solid
    simpa using unbroken before solid
  | cons c rest ih =>
    intro before solid
    by_cases cut : border c = true
    · exact joined before rest c cut (unbroken before solid) (by simpa using ih [] (by simp))
    · have longer : ∀ d ∈ before ++ [c], border d = false := by
        intro d member
        rcases List.mem_append.1 member with old | new
        · exact solid d old
        · rw [List.mem_singleton.1 new]
          simpa using cut
      simpa using ih (before ++ [c]) longer

theorem blank_induction {P : List Char → Prop}
    (unbroken : ∀ text, (∀ c ∈ text, isBlank c = false) → P text)
    (joined : ∀ before after c, isBlank c = true → P before → P after →
      P (before ++ c :: after))
    (text : List Char) : P text :=
  border_induction isBlank unbroken joined text

@[simp] theorem words_nil : words [] = [] := rfl

theorem pieces_eq_splitOnP (cut : Char → Bool) (text : List Char) :
    pieces cut text = text.splitOnP cut := by
  induction text with
  | nil => rfl
  | cons c rest ih =>
    rw [pieces, List.splitOnP_cons_eq_if_modifyHead, ih]
    cases parts : rest.splitOnP cut with
    | nil => exact absurd parts (List.splitOnP_ne_nil cut rest)
    | cons piece later => rfl

theorem pieces_of_uncut (cut : Char → Bool) (text : List Char)
    (whole : ∀ c ∈ text, cut c = false) : pieces cut text = [text] := by
  rw [pieces_eq_splitOnP, List.splitOnP_eq_singleton whole]

/-- A text is joined again from its pieces, and pieces in which nothing is cut are found again in
the text that they are joined to. -/
theorem pieces_eq_iff (separator : Char) (text : List Char) (parts : List (List Char))
    (whole : ∀ part ∈ parts, separator ∉ part) :
    pieces (· == separator) text = parts ↔ parts ≠ [] ∧ text = [separator].intercalate parts := by
  rw [pieces_eq_splitOnP, ← List.splitOn_eq_splitOnP]
  constructor
  · rintro rfl
    exact ⟨List.splitOn_ne_nil separator text, (List.intercalate_splitOn separator).symm⟩
  · rintro ⟨filled, rfl⟩
    exact List.splitOn_intercalate separator whole filled

theorem words_of_unbroken (text : List Char) (filled : text ≠ [])
    (whole : ∀ c ∈ text, isBlank c = false) : words text = [text] := by
  rw [words, pieces_of_uncut isBlank text whole]
  cases text with
  | nil => exact absurd rfl filled
  | cons c rest => rfl

/-- A word is not empty and has no blank. -/
theorem solid_of_mem_words (text word : List Char) (member : word ∈ words text) :
    word ≠ [] ∧ ∀ c ∈ word, isBlank c = false := by
  induction text using blank_induction with
  | unbroken text whole =>
    by_cases empty : text = []
    · simp [empty] at member
    · rw [words_of_unbroken text empty whole, List.mem_singleton] at member
      rw [member]
      exact ⟨empty, whole⟩
  | joined before after c blank first second =>
    rw [words_append_blank before after c blank, List.mem_append] at member
    exact member.elim first second

theorem isBlank_space : isBlank ' ' = true := by decide

/-- The code points of white space. -/
def blankCodes : List Nat :=
  List.range' 9 5 ++ [0x20, 0x85, 0xA0, 0x1680] ++ List.range' 0x2000 11 ++
    [0x2028, 0x2029, 0x202F, 0x205F, 0x3000]

theorem toNat_mem_blankCodes (c : Char) (blank : isBlank c = true) : c.toNat ∈ blankCodes := by
  simp only [isBlank, Bool.or_eq_true, Bool.and_eq_true, decide_eq_true_eq, beq_iff_eq] at blank
  simp only [blankCodes, List.mem_append, List.mem_range'_1, List.mem_cons, List.not_mem_nil,
    or_false]
  omega

theorem isIdentChar_of_blankCodes :
    ∀ code ∈ blankCodes, isIdentChar (Char.ofNat code) = false := by
  decide +kernel

/-- No identifier has a blank in it. -/
theorem isIdentChar_of_isBlank (c : Char) (blank : isBlank c = true) : isIdentChar c = false := by
  have known := isIdentChar_of_blankCodes c.toNat (toNat_mem_blankCodes c blank)
  rwa [Char.ofNat_toNat] at known

/-- A reading of text for which a blank is nothing but a border. -/
structure IgnoresBlanks {α : Type} (read : List Char → List α) : Prop where
  nil : read [] = []
  blank : ∀ before after c, isBlank c = true →
    read (before ++ c :: after) = read before ++ read after

namespace IgnoresBlanks

variable {α : Type} {read : List Char → List α}

theorem words : IgnoresBlanks Text.words :=
  ⟨words_nil, fun before after c blank => words_append_blank before after c blank⟩

theorem blank_cons (ignores : IgnoresBlanks read) (c : Char) (rest : List Char)
    (blank : isBlank c = true) : read (c :: rest) = read rest := by
  simpa [ignores.nil] using ignores.blank [] rest c blank

theorem blank_end (ignores : IgnoresBlanks read) (text : List Char) (c : Char)
    (blank : isBlank c = true) : read (text ++ [c]) = read text := by
  simpa [ignores.nil] using ignores.blank text [] c blank

/-- Such a reading goes word by word. -/
theorem eq_flatMap_words (ignores : IgnoresBlanks read) (text : List Char) :
    read text = (Text.words text).flatMap read := by
  induction text using blank_induction with
  | unbroken text whole =>
    by_cases empty : text = []
    · simp [empty, ignores.nil]
    · simp [words_of_unbroken text empty whole]
  | joined before after c blank first second =>
    rw [ignores.blank before after c blank, words_append_blank before after c blank,
      List.flatMap_append, first, second]

/-- Lines of which each ends in a blank are read one by one. -/
theorem flatten_of_closed (ignores : IgnoresBlanks read) (lines : List (List Char))
    (closed : ∀ line ∈ lines, ∃ text c, isBlank c = true ∧ line = text ++ [c]) :
    read lines.flatten = lines.flatMap read := by
  induction lines with
  | nil => exact ignores.nil
  | cons line rest ih =>
    obtain ⟨text, c, blank, rfl⟩ := closed line List.mem_cons_self
    have tail := ih fun other member => closed other (List.mem_cons_of_mem _ member)
    rw [List.flatten_cons, List.append_assoc, List.singleton_append, ignores.blank _ _ c blank,
      List.flatMap_cons, ignores.blank_end text c blank, tail]

/-- Texts put apart by a blank are read one by one. -/
theorem intercalate (ignores : IgnoresBlanks read) (c : Char) (blank : isBlank c = true)
    (items : List (List Char)) : read ([c].intercalate items) = items.flatMap read := by
  induction items with
  | nil => exact ignores.nil
  | cons item rest ih =>
    cases rest with
    | nil => simp
    | cons next rest =>
      have split : [c].intercalate (item :: next :: rest) =
          item ++ c :: [c].intercalate (next :: rest) := by simp
      rw [split, ignores.blank _ _ c blank, ih]
      rfl

end IgnoresBlanks

end DataAccess.Text

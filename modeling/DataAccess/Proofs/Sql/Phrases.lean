import DataAccess.Proofs.Schema.Identifiers
import DataAccess.Proofs.Sql.NormalForm

/-!
Statements spelled out as they are built. A phrase is a tidy text that stays tidy between spaces;
with each fragment that a statement takes on, the phrase that it spells grows by a space and the
phrase of the fragment, and in the end this phrase is the canonical text.
-/
set_option autoImplicit false

namespace DataAccess.Sql

open Text

instance (c d : Char) : Decidable (Tight c d) := by
  unfold Tight OpenTight Single
  infer_instance

instance (text : List Char) : Decidable (IsTidy text) :=
  decidable_of_iff
    ((∀ c ∈ text.head?, isBlank c = false) ∧ (∀ c ∈ text.getLast?, isBlank c = false) ∧
      (∀ c ∈ text, isBlank c = true → c = ' ') ∧ text.IsChain Tight)
    ⟨fun ⟨starts, ends, spaces, chain⟩ => ⟨starts, ends, spaces, chain⟩,
      fun ⟨starts, ends, spaces, chain⟩ => ⟨starts, ends, spaces, chain⟩⟩

/-- A tidy text that can stand between two spaces. -/
structure IsPhrase (text : String) : Prop where
  tidy : IsTidy text.toList
  filled : text.toList ≠ []
  notClosing : ∀ c ∈ text.toList.head?, c ≠ ')'
  notOpening : ∀ c ∈ text.toList.getLast?, c ≠ '('

instance (text : String) : Decidable (IsPhrase text) :=
  decidable_of_iff
    (IsTidy text.toList ∧ text.toList ≠ [] ∧ (∀ c ∈ text.toList.head?, c ≠ ')') ∧
      ∀ c ∈ text.toList.getLast?, c ≠ '(')
    ⟨fun ⟨tidy, filled, first, last⟩ => ⟨tidy, filled, first, last⟩,
      fun ⟨tidy, filled, first, last⟩ => ⟨tidy, filled, first, last⟩⟩

/-- A character that has no part in the layout. -/
def IsPlain (c : Char) : Prop :=
  isBlank c = false ∧ c ≠ '(' ∧ c ≠ ')'

instance (c : Char) : Decidable (IsPlain c) := by
  unfold IsPlain
  infer_instance

theorem isPhrase_of_plain (text : String) (filled : text.toList ≠ [])
    (plain : ∀ c ∈ text.toList, IsPlain c) : IsPhrase text where
  tidy := isTidy_of_solid text.toList fun c member => (plain c member).1
  filled := filled
  notClosing c head := (plain c (List.mem_of_head? head)).2.2
  notOpening c last := (plain c (List.mem_of_getLast? last)).2.1

theorem isPlain_of_isIdentifierChar (c : Char) (letter : isIdentifierChar c = true) :
    IsPlain c := by
  refine ⟨isBlank_of_isIdentifierChar c letter, ?_, ?_⟩
  · rintro rfl
    exact absurd letter (by decide)
  · rintro rfl
    exact absurd letter (by decide)

theorem isPhrase_of_isIdentifier (text : String) (identifier : isIdentifier text = true) :
    IsPhrase text :=
  isPhrase_of_plain text (filled_of_isIdentifier text identifier) fun c member =>
    isPlain_of_isIdentifierChar c (letters_of_isIdentifier text identifier c member)

namespace IsPhrase

/-- Two phrases with a space between them. -/
theorem space {first second : String} (before : IsPhrase first) (after : IsPhrase second) :
    IsPhrase (first ++ " " ++ second) := by
  have chars : (first ++ " " ++ second).toList = first.toList ++ ' ' :: second.toList := by simp
  refine ⟨?_, by simp, ?_, ?_⟩
  · rw [chars]
    refine before.tidy.space after.tidy before.filled after.filled ?_ ?_
    · intro c last
      have solid := before.tidy.ends c last
      refine ⟨⟨by simp [Single, solid], fun both => before.notOpening c last both.1⟩, ?_⟩
      rintro ⟨-, impossible⟩
      cases impossible
    · intro d head
      have solid := after.tidy.starts d head
      refine ⟨⟨by simp [Single, solid], ?_⟩, fun both => after.notClosing d head both.2⟩
      rintro ⟨impossible, -⟩
      cases impossible
  · intro c head
    rw [chars, List.head?_append_of_ne_nil _ before.filled] at head
    exact before.notClosing c head
  · intro c last
    obtain ⟨d, rest, made⟩ := List.exists_cons_of_ne_nil after.filled
    rw [chars, made, List.getLast?_append_cons, List.getLast?_cons_cons, ← made] at last
    exact after.notOpening c last

/-- A phrase and what is set directly behind it. -/
theorem append {first second : String} (before : IsPhrase first) (tidy : IsTidy second.toList)
    (closed : ∀ c ∈ second.toList.getLast?, c ≠ '(') : IsPhrase (first ++ second) := by
  refine ⟨?_, ?_, ?_, ?_⟩
  · rw [String.toList_append]
    exact before.tidy.append tidy
  · rw [String.toList_append]
    exact List.append_ne_nil_of_left_ne_nil before.filled _
  · intro c head
    rw [String.toList_append, List.head?_append_of_ne_nil _ before.filled] at head
    exact before.notClosing c head
  · intro c last
    rw [String.toList_append, List.getLast?_append, Option.mem_def,
      Option.or_eq_some_iff] at last
    rcases last with last | ⟨-, last⟩
    · exact closed c last
    · exact before.notOpening c last

/-- A text in parentheses. -/
theorem enclosed {text : String} (tidy : IsTidy text.toList) : IsPhrase ("(" ++ text ++ ")") := by
  have opening : IsTidy ['('] := by decide
  have closing : IsTidy [')'] := by decide
  have chars : ("(" ++ text ++ ")").toList = ['('] ++ text.toList ++ [')'] := by simp
  refine ⟨?_, by simp, ?_, ?_⟩
  · rw [chars]
    exact (opening.append tidy).append closing
  · intro c head
    rw [chars, List.append_assoc, List.singleton_append, List.head?_cons, Option.mem_def,
      Option.some.injEq] at head
    rw [← head]
    decide
  · intro c last
    rw [chars, List.getLast?_concat, Option.mem_def, Option.some.injEq] at last
    rw [← last]
    decide

end IsPhrase

/-- A separator that can be set behind any phrase. -/
def IsSeparator (separator : String) : Prop :=
  ∀ phrase, IsPhrase phrase → IsPhrase (phrase ++ separator)

theorem isSeparator_comma : IsSeparator "," := by
  intro phrase given
  exact given.append (by decide) (by decide +kernel)

theorem isSeparator_and : IsSeparator " and" := by
  intro phrase given
  have word : IsPhrase "and" := by decide
  have spaced := given.space word
  rwa [String.append_assoc] at spaced

/-- The separated items with single spaces between them. -/
theorem intercalate_separated (separator : String) (items : List String) :
    " ".intercalate (separated separator items) = (separator ++ " ").intercalate items := by
  induction items using separated.induct with
  | case1 => rfl
  | case2 last => simp [separated]
  | case3 item next rest ih =>
    have filled : separated separator (next :: rest) ≠ [] := by
      cases rest <;> simp [separated]
    rw [separated, String.intercalate_cons_of_ne_nil filled, ih, String.intercalate_cons_cons,
      ← String.append_assoc]

theorem isPhrase_list (separator : String) (glues : IsSeparator separator) (items : List String)
    (filled : items ≠ []) (phrases : ∀ item ∈ items, IsPhrase item) :
    IsPhrase ((separator ++ " ").intercalate items) := by
  induction items with
  | nil => exact absurd rfl filled
  | cons item rest ih =>
    have head := phrases item List.mem_cons_self
    cases rest with
    | nil => simpa using head
    | cons next rest =>
      have tail := ih (by simp) fun other member => phrases other (List.mem_cons_of_mem _ member)
      rw [String.intercalate_cons_cons, ← String.append_assoc]
      exact (glues item head).space tail

/-- A statement whose canonical text is a phrase. -/
structure Spells (statement : Statement) (text : String) : Prop where
  phrase : IsPhrase text
  joints : statement.reading (joints none) = Sql.joints none text.toList

theorem joints_space (first second : String) :
    joints none (first ++ " " ++ second).toList =
      joints none first.toList ++ joints none second.toList := by
  have chars : (first ++ " " ++ second).toList = first.toList ++ ' ' :: second.toList := by simp
  rw [chars, joints_ignoresLayout.blank _ _ ' ' isBlank_space]

theorem joints_separated (separator : String) (items : List String) :
    ((separated separator items).flatMap fun item => joints none item.toList) =
      joints none ((separator ++ " ").intercalate items).toList := by
  have space : " ".toList = [' '] := rfl
  rw [← intercalate_separated, String.toList_intercalate, space,
    joints_ignoresLayout.intercalate ' ' isBlank_space, List.flatMap_map]

namespace Spells

variable {statement : Statement} {text : String}

theorem first_keyword (word : String) (phrase : IsPhrase word) :
    Spells (({} : Statement).keyword word) word :=
  ⟨phrase, by simp⟩

theorem keyword (spells : Spells statement text) (word : String) (phrase : IsPhrase word) :
    Spells (statement.keyword word) (text ++ " " ++ word) := by
  refine ⟨spells.phrase.space phrase, ?_⟩
  rw [joints_space, ← spells.joints, reading_keyword]

theorem item (spells : Spells statement text) {word : String} (phrase : IsPhrase word) :
    Spells (statement.item word) (text ++ " " ++ word) := by
  refine ⟨spells.phrase.space phrase, ?_⟩
  rw [joints_space, ← spells.joints, reading_item]

theorem list (spells : Spells statement text) {separator : String}
    (glues : IsSeparator separator) {items : List String} (filled : items ≠ [])
    (phrases : ∀ item ∈ items, IsPhrase item) :
    Spells (statement.list items separator)
      (text ++ " " ++ (separator ++ " ").intercalate items) := by
  refine ⟨spells.phrase.space (isPhrase_list separator glues items filled phrases), ?_⟩
  rw [joints_space, ← spells.joints, ← joints_separated, reading_list]

/-- Items between parentheses of their own lose the spaces at the parentheses. -/
theorem enclosed (spells : Spells statement text) {items : List String} (filled : items ≠ [])
    (phrases : ∀ item ∈ items, IsPhrase item) :
    Spells (((statement.item "(").list items ",").item ")")
      (text ++ " " ++ ("(" ++ ", ".intercalate items ++ ")")) := by
  have inner := isPhrase_list "," isSeparator_comma items filled phrases
  refine ⟨spells.phrase.space (IsPhrase.enclosed inner.tidy), ?_⟩
  have chars : ("(" ++ ("," ++ " ").intercalate items ++ ")").toList =
      [] ++ '(' :: ((("," ++ " ").intercalate items).toList ++ ')' :: []) := by simp
  rw [joints_space, ← spells.joints, comma_space, chars, joints_ignoresLayout.opening,
    joints_ignoresLayout.closing, ← joints_separated]
  simp

/-- The canonical text of a statement is what it spells. -/
theorem sql_eq (spells : Spells statement text) : statement.sql = text := by
  have same : Sql.joints none (" ".intercalate (statement.fragments.map (·.text))).toList =
      Sql.joints none text.toList := by
    rw [read_spaced joints_ignoresLayout.toIgnoresBlanks, spells.joints]
  rw [Statement.sql, normalize, normalizeChars_congr _ _ same,
    normalizeChars_of_isTidy text.toList spells.phrase.tidy, String.ofList_toList]

end Spells

end DataAccess.Sql

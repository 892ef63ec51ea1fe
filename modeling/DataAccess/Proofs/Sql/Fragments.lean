import DataAccess.Proofs.Sql.NormalForm
import DataAccess.Proofs.Text.Stretches

/-!
Statement text has nothing that its fragments do not have. Between fragments there are only spaces
and newlines, and inside of a fragment texts are put together by spaces, commas and parentheses, so
a property of text that this preserves is known of a statement from its smallest parts.
-/
set_option autoImplicit false

namespace DataAccess.Sql

open Text

/-- A property of text that is preserved where fragments are put together. -/
structure Composes (holds : String → Prop) : Prop where
  empty : holds ""
  space : ∀ first second, holds first → holds second → holds (first ++ " " ++ second)
  comma : ∀ text, holds text → holds (text ++ ",")
  call : ∀ name text, holds name → holds text → holds (name ++ "(" ++ text ++ ")")

section Parts

variable {holds : String → Prop}

theorem forall_separated (separator : String)
    (ended : ∀ text, holds text → holds (text ++ separator))
    (items : List String) (each : ∀ item ∈ items, holds item) :
    ∀ item ∈ separated separator items, holds item := by
  induction items using separated.induct with
  | case1 => exact each
  | case2 last => exact each
  | case3 item next rest ih =>
    intro text member
    rw [separated] at member
    rcases List.mem_cons.1 member with rfl | later
    · exact ended item (each item List.mem_cons_self)
    · exact ih (fun other among => each other (List.mem_cons_of_mem item among)) text later

namespace Composes

theorem enclosed (composes : Composes holds) (text : String) (inner : holds text) :
    holds ("(" ++ text ++ ")") := by
  have called := composes.call "" text composes.empty inner
  rwa [String.empty_append] at called

theorem commas (composes : Composes holds) (items : List String)
    (each : ∀ item ∈ items, holds item) : holds (", ".intercalate items) := by
  induction items with
  | nil => exact composes.empty
  | cons item rest ih =>
    have first := each item List.mem_cons_self
    cases rest with
    | nil => simpa using first
    | cons next rest =>
      have tail := ih fun other member => each other (List.mem_cons_of_mem item member)
      rw [String.intercalate_cons_cons, comma_space, ← String.append_assoc, ← comma_space]
      exact composes.space _ _ (composes.comma item first) tail

theorem before_and (composes : Composes holds) (word : holds "and") (text : String)
    (inner : holds text) :
    holds (text ++ " and") := by
  rw [space_and, ← String.append_assoc]
  exact composes.space text "and" inner word

/-- What is read by a reading that ignores punctuation is what it reads of the parts. -/
theorem of_reading {α : Type} {read : List Char → List α} (ignores : IgnoresPunctuation read)
    (admits : α → Prop) : Composes fun text => ∀ item ∈ read text.toList, admits item where
  empty := by
    rw [String.toList_empty, ignores.nil]
    intro item member
    exact absurd member List.not_mem_nil
  space first second before after := by
    rw [ignores.space]
    exact List.forall_mem_append.2 ⟨before, after⟩
  comma text inner := by
    rw [ignores.comma]
    exact inner
  call name text before inner := by
    rw [ignores.call]
    exact List.forall_mem_append.2 ⟨before, inner⟩

/-- Characters are those of the parts and what stands between them. -/
theorem of_chars (admits : Char → Prop) (layout : ∀ c ∈ [' ', ',', '(', ')'], admits c) :
    Composes fun text => ∀ c ∈ text.toList, admits c where
  empty := by simp
  space first second before after := by
    have between := layout ' ' (by simp)
    simp only [String.toList_append, List.forall_mem_append]
    exact ⟨⟨before, by simpa using between⟩, after⟩
  comma text inner := by
    have comma := layout ',' (by simp)
    simp only [String.toList_append, List.forall_mem_append]
    exact ⟨inner, by simpa using comma⟩
  call name text before inner := by
    have opening := layout '(' (by simp)
    have closing := layout ')' (by simp)
    simp only [String.toList_append, List.forall_mem_append]
    exact ⟨⟨⟨before, by simpa using opening⟩, inner⟩, by simpa using closing⟩

end Composes

end Parts

/-- Something holds of all fragments of a statement. -/
def Statement.All (holds : String → Prop) (statement : Statement) : Prop :=
  ∀ fragment ∈ statement.fragments, holds fragment.text

section Statements

variable {holds : String → Prop}

@[simp] theorem all_empty : ({} : Statement).All holds := by
  intro fragment member
  cases member

@[simp] theorem all_keyword (statement : Statement) (text : String) :
    (statement.keyword text).All holds ↔ statement.All holds ∧ holds text := by
  simp [Statement.All, Statement.keyword, or_imp, forall_and]

@[simp] theorem all_item (statement : Statement) (text : String) :
    (statement.item text).All holds ↔ statement.All holds ∧ holds text := by
  simp [Statement.All, Statement.item, or_imp, forall_and]

@[simp] theorem all_list (statement : Statement) (items : List String) (separator : String) :
    (statement.list items separator).All holds ↔
      statement.All holds ∧ ∀ item ∈ separated separator items, holds item := by
  simp [Statement.All, Statement.list, or_imp, forall_and]

end Statements

section Characters

theorem of_mem_intercalate (separator : String) (items : List String) (c : Char)
    (member : c ∈ (separator.intercalate items).toList) :
    c ∈ separator.toList ∨ ∃ item ∈ items, c ∈ item.toList := by
  induction items with
  | nil => simp at member
  | cons item rest ih =>
    cases rest with
    | nil => exact .inr ⟨item, List.mem_cons_self, by simpa using member⟩
    | cons next rest =>
      rw [String.intercalate_cons_cons, String.toList_append, String.toList_append,
        List.mem_append, List.mem_append] at member
      rcases member with (first | between) | later
      · exact .inr ⟨item, List.mem_cons_self, first⟩
      · exact .inl between
      · rcases ih later with between | ⟨other, among, inside⟩
        · exact .inl between
        · exact .inr ⟨other, List.mem_cons_of_mem item among, inside⟩

/-- The characters of a text that are not white space, which no layout changes. -/
def solidChars (text : List Char) : List Char :=
  text.filter fun c => !isBlank c

theorem solidChars_ignoresLayout : IgnoresLayout solidChars where
  nil := rfl
  blank before after c blank := by simp [solidChars, blank]
  opening before after := by
    rw [solidChars, solidChars, solidChars, ← List.filter_append, List.append_assoc]
    rfl
  closing before after := by simp [solidChars]

/-- Normalizing a text only puts in spaces. -/
theorem of_mem_normalize (text : String) (c : Char) (member : c ∈ (normalize text).toList) :
    c = ' ' ∨ c ∈ text.toList := by
  by_cases blank : isBlank c = true
  · rw [normalize, String.toList_ofList] at member
    exact .inl ((isTidy_normalizeChars text.toList).spaces c member blank)
  · have solid : c ∈ solidChars (normalize text).toList :=
      List.mem_filter.2 ⟨member, by simpa using blank⟩
    rw [solidChars_ignoresLayout.normalize] at solid
    exact .inr (List.mem_filter.1 solid).1

/-- The canonical text of a statement has the characters of its fragments and spaces. -/
theorem of_mem_sql (statement : Statement) (c : Char) (member : c ∈ statement.sql.toList) :
    c = ' ' ∨ ∃ fragment ∈ statement.fragments, c ∈ fragment.text.toList := by
  rcases of_mem_normalize _ c member with space | inside
  · exact .inl space
  · rcases of_mem_intercalate " " _ c inside with between | ⟨text, among, within⟩
    · exact .inl (by simpa using between)
    · obtain ⟨fragment, known, rfl⟩ := List.mem_map.1 among
      exact .inr ⟨fragment, known, within⟩

theorem of_mem_line (fragment : Fragment) (c : Char) (member : c ∈ fragment.line.toList) :
    c = ' ' ∨ c ∈ fragment.text.toList := by
  rw [toList_line, List.mem_append, List.mem_append, List.mem_singleton] at member
  rcases member with indent | inside | closing
  · exact .inl (List.eq_of_mem_replicate indent)
  · exact .inr inside
  · exact .inl closing

/-- The raw text has newlines besides. -/
theorem of_mem_write (strategy : RenderStrategy) (statement : Statement) (c : Char)
    (member : c ∈ (strategy.write statement).text.toList) :
    c = ' ' ∨ c = '\n' ∨ ∃ fragment ∈ statement.fragments, c ∈ fragment.text.toList := by
  have ofLine : ∀ line ∈ statement.fragments.map (·.line), c ∈ line.toList →
      c = ' ' ∨ c = '\n' ∨ ∃ fragment ∈ statement.fragments, c ∈ fragment.text.toList := by
    intro line among inside
    obtain ⟨fragment, known, rfl⟩ := List.mem_map.1 among
    rcases of_mem_line fragment c inside with space | within
    · exact .inl space
    · exact .inr (.inr ⟨fragment, known, within⟩)
  cases strategy with
  | incrementalAppend =>
    simp only [RenderStrategy.write, appendQuery, String.toList_join, List.mem_flatMap] at member
    obtain ⟨line, among, inside⟩ := member
    exact ofLine line among inside
  | literalBlock =>
    have newline : ∀ d ∈ "\n".toList, d = '\n' := by simp
    simp only [RenderStrategy.write, literalQuery, String.toList_append, List.mem_append] at member
    rcases member with (first | inside) | last
    · exact .inr (.inl (newline c first))
    · rcases of_mem_intercalate "\n" _ c inside with between | ⟨line, among, within⟩
      · exact .inr (.inl (newline c between))
      · exact ofLine line among within
    · exact .inr (.inl (newline c last))

end Characters

/-- Characters of a kind that layout and punctuation are not of. -/
structure IsInner (kind : Char → Bool) : Prop where
  notBlank : ∀ c, isBlank c = true → kind c = false
  notPunctuation : ∀ c ∈ ['(', ')', ','], kind c = false

theorem IsInner.stretches_ignoresPunctuation {kind : Char → Bool} (inner : IsInner kind) :
    IgnoresPunctuation (stretches kind) where
  nil := stretches_nil
  blank before after c blank := stretches_append_border before after c (inner.notBlank c blank)
  punctuation before after c member :=
    stretches_append_border before after c (inner.notPunctuation c member)

end DataAccess.Sql

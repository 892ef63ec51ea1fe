import DataAccess.Proofs.Method.Standard
import DataAccess.Proofs.Method.Wording
import DataAccess.Proofs.Sql.Phrases

/-!
The spelling of clauses. Every name in the shape of an operation on a valid relation is a phrase,
and so are the fragments that clauses are made of.
-/
set_option autoImplicit false

namespace DataAccess

open Sql

section Names

theorem isPlain_sigil (known : KnownDialect) : IsPlain known.dialect.sigil := by
  cases known <;> decide

/-- A placeholder is a phrase, even one without a name. -/
theorem isPhrase_marker (known : KnownDialect) (name : String)
    (letters : ∀ c ∈ name.toList, isIdentifierChar c = true) :
    IsPhrase (known.dialect.marker name) := by
  have chars := toList_marker_known known name
  refine isPhrase_of_plain _ (by simp [chars]) ?_
  intro c member
  rw [chars] at member
  rcases List.mem_cons.1 member with rfl | inside
  · exact isPlain_sigil known
  · exact isPlain_of_isIdentifierChar c (letters c inside)

/-- The characters of a full name. -/
theorem mem_fullName (heading : Heading) (c : Char) (member : c ∈ heading.fullName.toList) :
    (∃ schema ∈ heading.schema, c ∈ schema.toList) ∨ c = '.' ∨ c ∈ heading.name.toList := by
  unfold Heading.fullName at member
  split at member
  · rename_i schema present
    have dot : ".".toList = ['.'] := rfl
    simp only [String.toList_append, dot, List.mem_append, List.mem_singleton] at member
    rcases member with (first | middle) | last
    · exact .inl ⟨schema, present, first⟩
    · exact .inr (.inl middle)
    · exact .inr (.inr last)
  · exact .inr (.inr member)

theorem fullName_ne_nil (heading : Heading) (named : heading.WellNamed) :
    heading.fullName.toList ≠ [] := by
  have filled := filled_of_isIdentifier heading.name named.name
  unfold Heading.fullName
  split <;> simp [filled]

theorem isPhrase_fullName (relation : Relation) (named : relation.heading.WellNamed) :
    IsPhrase relation.fullName := by
  refine isPhrase_of_plain _ (fullName_ne_nil relation.heading named) ?_
  intro c member
  rcases mem_fullName relation.heading c member with ⟨schema, present, inside⟩ | rfl | inside
  · exact isPlain_of_isIdentifierChar c
      (letters_of_isIdentifier schema (named.schema schema present) c inside)
  · decide
  · exact isPlain_of_isIdentifierChar c (letters_of_isIdentifier _ named.name c inside)

end Names

section Fragments

variable (settings : Settings) (known : KnownDialect) (types : TypeResolver)

theorem isPhrase_spacedWord (word : String) (spaced : word ∈ spacedWords) : IsPhrase word := by
  revert word
  decide

theorem isPhrase_assignment (column : Column) (identifier : isIdentifier column.name = true) :
    IsPhrase ((Conventions.standard settings known types).assignment column) := by
  have name := isPhrase_of_isIdentifier column.name identifier
  have marker := isPhrase_marker known column.name (letters_of_isIdentifier _ identifier)
  have equals := isPhrase_spacedWord "=" (by decide)
  rw [Conventions.assignment_eq, columnMarker_standard]
  exact (name.space equals).space marker

theorem isPhrase_filterTerm (filter : Filter) (identifier : isIdentifier filter.column.name = true)
    (letters : ∀ c ∈ filter.marker.toList, isIdentifierChar c = true) :
    IsPhrase ((Conventions.standard settings known types).filterTerm filter) := by
  have name := isPhrase_of_isIdentifier filter.column.name identifier
  have marker := isPhrase_marker known filter.marker letters
  have isNull := isPhrase_spacedWord "is null or" (by decide)
  have equals := isPhrase_spacedWord "=" (by decide)
  have equal := ((marker.space isNull).space name).space equals
  rw [Conventions.filterTerm_eq]
  exact IsPhrase.enclosed (equal.space marker).tidy

theorem isPhrase_offset (size number : String) (sized : IsPhrase size)
    (numbered : IsPhrase number) :
    IsPhrase ("offset " ++ size ++ " * (" ++ number ++ " - 1) rows") := by
  have offset := isPhrase_spacedWord "offset" (by decide)
  have times := isPhrase_spacedWord "*" (by decide)
  have minus := isPhrase_spacedWord "-" (by decide)
  have one := isPhrase_spacedWord "1" (by decide)
  have rows := isPhrase_spacedWord "rows" (by decide)
  have before := IsPhrase.enclosed ((numbered.space minus).space one).tidy
  rw [offset_eq]
  exact (((offset.space sized).space times).space before).space rows

theorem isPhrase_fetch (size : String) (sized : IsPhrase size) :
    IsPhrase ("fetch next " ++ size ++ " rows only") := by
  have fetch := isPhrase_spacedWord "fetch next" (by decide)
  have only := isPhrase_spacedWord "rows only" (by decide)
  rw [fetch_eq]
  exact (fetch.space sized).space only

theorem isPhrase_call (name : String) (called : IsPhrase name) (arguments : List String)
    (phrases : ∀ argument ∈ arguments, IsPhrase argument) :
    IsPhrase (name ++ "(" ++ ", ".intercalate arguments ++ ")") := by
  have inner : IsTidy (", ".intercalate arguments).toList := by
    cases arguments with
    | nil => exact laid_nil Tight
    | cons argument rest =>
      rw [comma_space]
      exact (isPhrase_list "," isSeparator_comma _ (by simp) phrases).tidy
  have enclosed := IsPhrase.enclosed inner
  have whole := called.append enclosed.tidy enclosed.notOpening
  simpa only [String.append_assoc] using whole

theorem isPhrase_identityClause (column marker : String) (named : IsPhrase column)
    (marked : IsPhrase marker) : IsPhrase (known.dialect.identityClause column marker) := by
  have select := isPhrase_spacedWord "select" (by decide)
  have returning := isPhrase_spacedWord "returning" (by decide)
  have equal := (select.space marked).space (isPhrase_spacedWord "=" (by decide))
  rw [identityClause_known]
  cases known with
  | sqlServer =>
    have global : IsPhrase "@@identity" := by decide
    exact equal.space global
  | sqlServerScoped =>
    have called : IsPhrase ("scope_identity" ++ "(" ++ "" ++ ")") := by decide
    have whole := equal.space called
    simpa only [String.append_assoc] using whole
  | oracle =>
    have into := isPhrase_spacedWord "into" (by decide)
    exact ((returning.space named).space into).space marked

end Fragments

namespace Sql.Spells

variable {statement : Statement} {text : String}

/-- A clause of a keyword and a list. -/
theorem clause (spells : Spells statement text) (word : String) (phrase : IsPhrase word)
    {separator : String} (glues : IsSeparator separator) {items : List String} (filled : items ≠ [])
    (phrases : ∀ item ∈ items, IsPhrase item) :
    Spells ((statement.keyword word).list items separator)
      (text ++ " " ++ word ++ " " ++ (separator ++ " ").intercalate items) :=
  (spells.keyword word phrase).list glues filled phrases

end Sql.Spells

end DataAccess

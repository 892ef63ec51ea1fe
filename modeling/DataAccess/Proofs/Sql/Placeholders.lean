import DataAccess.Proofs.Sql.Layout
import DataAccess.Sql.Marker

/-!
Placeholders do not depend on layout: a scan of statement text starts afresh at every character
that is neither the sigil nor part of an identifier, and white space and parentheses are such
characters.
-/
set_option autoImplicit false

namespace DataAccess.Sql

open Text

/-- The state after one more character. -/
def MarkerScan.next (sigil : Char) : MarkerScan → Char → MarkerScan
  | .text, c => if c = sigil then .opened else .text
  | .opened, c => if c = sigil then .system else if isIdentChar c then .name [c] else .text
  | .system, c => if isIdentChar c then .system else if c = sigil then .opened else .text
  | .name read, c =>
    if isIdentChar c then .name (read ++ [c]) else if c = sigil then .opened else .text

/-- The names that end before a character. -/
def MarkerScan.ended : MarkerScan → Char → List (List Char)
  | .name read, c => if isIdentChar c then [] else [read]
  | _, _ => []

/-- The names that end where the text ends. -/
def MarkerScan.pending : MarkerScan → List (List Char)
  | .name read => [read]
  | _ => []

/-- A name that is being read is not empty and has identifier characters only. -/
def MarkerScan.WellRead : MarkerScan → Prop
  | .name read => read ≠ [] ∧ ∀ c ∈ read, isIdentChar c = true
  | _ => True

/-- A character at which every scan starts afresh. -/
def IsBorder (sigil c : Char) : Prop :=
  c ≠ sigil ∧ isIdentChar c = false

section Scan

variable {sigil : Char}

theorem scanMarkers_nil (state : MarkerScan) : scanMarkers sigil state [] = state.pending := by
  cases state <;> rfl

theorem scanMarkers_cons (state : MarkerScan) (c : Char) (rest : List Char) :
    scanMarkers sigil state (c :: rest) =
      state.ended c ++ scanMarkers sigil (state.next sigil c) rest := by
  cases state with
  | name read =>
    by_cases inside : isIdentChar c = true <;>
      simp [scanMarkers, MarkerScan.ended, MarkerScan.next, inside]
  | _ => simp only [scanMarkers, MarkerScan.ended, MarkerScan.next, List.nil_append]

theorem MarkerScan.WellRead.next {state : MarkerScan} (wellRead : state.WellRead) (c : Char) :
    (state.next sigil c).WellRead := by
  cases state with
  | text =>
    simp only [MarkerScan.next]
    split <;> trivial
  | opened =>
    simp only [MarkerScan.next]
    split
    · trivial
    · split
      · rename_i inside
        exact ⟨by simp, by simpa using inside⟩
      · trivial
  | system =>
    simp only [MarkerScan.next]
    split
    · trivial
    · split <;> trivial
  | name read =>
    obtain ⟨filled, letters⟩ := wellRead
    simp only [MarkerScan.next]
    split
    · rename_i inside
      refine ⟨by simp, ?_⟩
      intro d member
      rcases List.mem_append.1 member with old | new
      · exact letters d old
      · rw [List.mem_singleton.1 new]
        exact inside
    · split <;> trivial

theorem MarkerScan.WellRead.of_mem_pending {state : MarkerScan} (wellRead : state.WellRead)
    (name : List Char) (member : name ∈ state.pending) :
    name ≠ [] ∧ ∀ c ∈ name, isIdentChar c = true := by
  cases state with
  | name read =>
    rw [MarkerScan.pending, List.mem_singleton] at member
    rw [member]
    exact wellRead
  | _ => simp [MarkerScan.pending] at member

theorem MarkerScan.mem_pending_of_mem_ended (state : MarkerScan) (c : Char) (name : List Char)
    (member : name ∈ state.ended c) : name ∈ state.pending := by
  cases state with
  | name read =>
    simp only [MarkerScan.ended] at member
    split at member
    · cases member
    · exact member
  | _ => exact member

/-- The invariant of the scan: every name it gives out has been read character by character. -/
theorem wellRead_of_mem_scanMarkers (state : MarkerScan) (text name : List Char)
    (wellRead : state.WellRead) (member : name ∈ scanMarkers sigil state text) :
    name ≠ [] ∧ ∀ c ∈ name, isIdentChar c = true := by
  induction text generalizing state with
  | nil =>
    rw [scanMarkers_nil] at member
    exact wellRead.of_mem_pending name member
  | cons c rest ih =>
    rw [scanMarkers_cons, List.mem_append] at member
    rcases member with ended | later
    · exact wellRead.of_mem_pending name (state.mem_pending_of_mem_ended c name ended)
    · exact ih (state.next sigil c) (wellRead.next c) later

theorem scanMarkers_border_cons (state : MarkerScan) (c : Char) (rest : List Char)
    (border : IsBorder sigil c) :
    scanMarkers sigil state (c :: rest) = state.pending ++ scanMarkers sigil .text rest := by
  obtain ⟨different, outside⟩ := border
  cases state <;> simp [scanMarkers, MarkerScan.pending, different, outside]

theorem scanMarkers_append_border (state : MarkerScan) (before after : List Char) (c : Char)
    (border : IsBorder sigil c) :
    scanMarkers sigil state (before ++ c :: after) =
      scanMarkers sigil state before ++ scanMarkers sigil .text after := by
  induction before generalizing state with
  | nil => rw [List.nil_append, scanMarkers_border_cons state c after border, scanMarkers_nil]
  | cons d rest ih =>
    rw [List.cons_append, scanMarkers_cons, scanMarkers_cons, ih, List.append_assoc]

/-- Text without the sigil is passed over. -/
theorem scanMarkers_text_append (part rest : List Char) (absent : sigil ∉ part) :
    scanMarkers sigil .text (part ++ rest) = scanMarkers sigil .text rest := by
  induction part with
  | nil => rfl
  | cons c later ih =>
    obtain ⟨different, absent⟩ := List.ne_and_not_mem_of_not_mem_cons absent
    simp only [List.cons_append, scanMarkers, Ne.symm different, ↓reduceIte, ih absent]

theorem scanMarkers_of_no_sigil (text : List Char) (absent : sigil ∉ text) :
    scanMarkers sigil .text text = [] := by
  have passed := scanMarkers_text_append text [] absent
  rwa [List.append_nil, scanMarkers_nil] at passed

/-- A name that is being read takes what it can. -/
theorem scanMarkers_name_append (read part rest : List Char)
    (letters : ∀ c ∈ part, isIdentChar c = true) :
    scanMarkers sigil (.name read) (part ++ rest) =
      scanMarkers sigil (.name (read ++ part)) rest := by
  induction part generalizing read with
  | nil => rw [List.nil_append, List.append_nil]
  | cons c later ih =>
    have tail := ih (read ++ [c]) fun d member => letters d (List.mem_cons_of_mem c member)
    simp only [List.cons_append, scanMarkers, letters c List.mem_cons_self, ↓reduceIte, tail,
      List.append_assoc, List.nil_append]

/-- A sigil before an identifier is a placeholder of that name. -/
theorem scanMarkers_marker (name : List Char) (filled : name ≠ [])
    (letters : ∀ c ∈ name, isIdentChar c = true) (plain : sigil ∉ name) :
    scanMarkers sigil .text (sigil :: name) = [name] := by
  cases name with
  | nil => exact absurd rfl filled
  | cons c rest =>
    obtain ⟨different, -⟩ := List.ne_and_not_mem_of_not_mem_cons plain
    have tail : ∀ d ∈ rest, isIdentChar d = true :=
      fun d member => letters d (List.mem_cons_of_mem c member)
    have taken : scanMarkers sigil (.name [c]) (rest ++ []) = _ :=
      scanMarkers_name_append [c] rest [] tail
    rw [List.append_nil, scanMarkers_nil] at taken
    simp only [scanMarkers, Ne.symm different, letters c List.mem_cons_self, ↓reduceIte]
    exact taken

end Scan

/-- A sigil that white space and parentheses cannot be taken for. -/
structure IsSolid (sigil : Char) : Prop where
  notBlank : isBlank sigil = false
  notOpening : sigil ≠ '('
  notClosing : sigil ≠ ')'

namespace IsSolid

variable {sigil : Char}

theorem border_of_blank (solid : IsSolid sigil) (c : Char) (blank : isBlank c = true) :
    IsBorder sigil c := by
  refine ⟨?_, isIdentChar_of_isBlank c blank⟩
  rintro rfl
  rw [solid.notBlank] at blank
  cases blank

theorem border_opening (solid : IsSolid sigil) : IsBorder sigil '(' :=
  ⟨solid.notOpening.symm, by decide⟩

theorem border_closing (solid : IsSolid sigil) : IsBorder sigil ')' :=
  ⟨solid.notClosing.symm, by decide⟩

/-- Punctuation is no part of a placeholder either. -/
theorem scanMarkers_ignoresPunctuation (solid : IsSolid sigil) (notComma : sigil ≠ ',') :
    IgnoresPunctuation (scanMarkers sigil .text) where
  nil := rfl
  blank before after c blank :=
    scanMarkers_append_border .text before after c (solid.border_of_blank c blank)
  punctuation before after c member := by
    refine scanMarkers_append_border .text before after c ?_
    simp only [List.mem_cons, List.not_mem_nil, or_false] at member
    rcases member with rfl | rfl | rfl
    · exact solid.border_opening
    · exact solid.border_closing
    · exact ⟨notComma.symm, by decide⟩

theorem scanMarkers_ignoresLayout (solid : IsSolid sigil) :
    IgnoresLayout (scanMarkers sigil .text) where
  nil := rfl
  blank before after c blank :=
    scanMarkers_append_border .text before after c (solid.border_of_blank c blank)
  opening before after := by
    rw [scanMarkers_append_border _ before after _ solid.border_opening,
      scanMarkers_append_border _ before [] _ solid.border_opening, scanMarkers_nil]
    simp [MarkerScan.pending]
  closing before after := by
    rw [scanMarkers_append_border _ before after _ solid.border_closing,
      scanMarkers_border_cons _ _ after solid.border_closing]
    simp [MarkerScan.pending]

/-- Normalizing a text neither hides nor invents a placeholder. -/
theorem occurrences_normalize (solid : IsSolid sigil) (text : String) :
    markerOccurrences (normalize text) sigil = markerOccurrences text sigil := by
  simp only [markerOccurrences, solid.scanMarkers_ignoresLayout.normalize]

/-- The placeholders of a statement are those of its fragments, one after the other. -/
theorem occurrences_sql (solid : IsSolid sigil) (statement : Statement) :
    markerOccurrences statement.sql sigil =
      (statement.reading (scanMarkers sigil .text)).map String.ofList := by
  rw [markerOccurrences, read_sql solid.scanMarkers_ignoresLayout]

/-- The canonical text has the placeholders of the raw text. -/
theorem placeholders_write (solid : IsSolid sigil) (strategy : RenderStrategy)
    (statement : Statement) :
    placeholders (strategy.write statement).text sigil = placeholders statement.sql sigil := by
  simp only [placeholders, markerOccurrences, read_sql solid.scanMarkers_ignoresLayout,
    read_write solid.scanMarkers_ignoresLayout.toIgnoresBlanks]

end IsSolid

/-- A sigil that is blank is lost with the layout. -/
theorem occurrences_of_isBlank (sigil : Char) (blank : isBlank sigil = true) :
    markerOccurrences (String.ofList [sigil, 'a']) sigil = ["a"] ∧
      markerOccurrences (normalize (String.ofList [sigil, 'a'])) sigil = [] := by
  have other : sigil ∉ ['a'] := by
    intro same
    rw [List.mem_singleton.1 same] at blank
    revert blank
    decide
  have word : words [sigil, 'a'] = [['a']] := words_append_blank [] ['a'] sigil blank
  refine ⟨?_, ?_⟩
  · unfold markerOccurrences
    rw [String.toList_ofList, scanMarkers_marker ['a'] (by simp) (by decide) other]
    rfl
  · unfold markerOccurrences normalize normalizeChars
    rw [String.toList_ofList, String.toList_ofList, word]
    exact congrArg _ (scanMarkers_of_no_sigil ['a'] other)

/-- Normalizing a text neither hides nor invents a placeholder, exactly if the sigil cannot be taken
for layout. -/
theorem occurrences_normalize_iff (sigil : Char) :
    (∀ text, markerOccurrences (normalize text) sigil = markerOccurrences text sigil) ↔
      isBlank sigil = false ∧ sigil ≠ '(' ∧ sigil ≠ ')' := by
  constructor
  · intro same
    refine ⟨?_, ?_, ?_⟩
    · rw [Bool.eq_false_iff]
      intro blank
      obtain ⟨found, lost⟩ := occurrences_of_isBlank sigil blank
      have both := same (String.ofList [sigil, 'a'])
      rw [found, lost] at both
      cases both
    · rintro rfl
      exact absurd (same "( a") (by decide +kernel)
    · rintro rfl
      exact absurd (same ") )a") (by decide +kernel)
  · rintro ⟨notBlank, notOpening, notClosing⟩ text
    exact IsSolid.occurrences_normalize ⟨notBlank, notOpening, notClosing⟩ text

/-- The name of a placeholder is an identifier. -/
theorem identifier_of_mem_occurrences (text name : String) (sigil : Char)
    (member : name ∈ markerOccurrences text sigil) :
    name ≠ "" ∧ ∀ c ∈ name.toList, isIdentChar c = true := by
  obtain ⟨read, found, rfl⟩ := List.mem_map.1 member
  obtain ⟨filled, letters⟩ :=
    wellRead_of_mem_scanMarkers .text text.toList read trivial found
  rw [String.toList_ofList]
  refine ⟨fun empty => filled ?_, letters⟩
  simpa using congrArg String.toList empty

end DataAccess.Sql

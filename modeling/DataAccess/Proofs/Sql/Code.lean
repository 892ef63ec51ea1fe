import DataAccess.Proofs.Sql.Layout
import DataAccess.Proofs.Text.Literals
import DataAccess.Proofs.Text.Stretches
import Mathlib.Data.List.Infix
import Mathlib.Data.Nat.Find

/-!
What generated code builds. Code that appends builds its text from string literals, which hold any
text. A raw literal has no escapes and ends at the first quote with a hash behind it, so it holds
the text of a statement unless one of the fragments ends it before.
-/
set_option autoImplicit false

namespace DataAccess.Sql

open Text

/-- What a line of code appends. -/
def appended? (line : String) : Option String := do
  let argument ← line.toList.dropPrefix? "query.push_str(".toList
  let (text, left) ← literal? argument
  if left = ");".toList then some (String.ofList text) else none

/-- The text that code builds which begins with nothing and appends line by line. -/
def appendedText? : (code : List String) → Option String
  | [] => none
  | first :: lines =>
    if first = "let mut query = String::new();" then (lines.mapM appended?).map String.join
    else none

/-- What ends a raw literal. -/
def fence : List Char := ['"', '#']

/-- Reads the first raw literal of some code: the characters up to the first fence, and the code
behind it. -/
def rawLiteral? (code : String) : Option (String × String) := do
  let (_, opened) ← code.toList.dropInfix? "r#\"".toList
  let (content, left) ← opened.dropInfix? fence
  return (String.ofList content, String.ofList left)

section Appended

theorem appended?_line (line : String) :
    appended? ("query.push_str(" ++ quoted line ++ ");") = some line := by
  have argument : ("query.push_str(" ++ quoted line ++ ");").toList.dropPrefix?
      "query.push_str(".toList = some ((quoted line).toList ++ ");".toList) := by
    rw [String.toList_append, String.toList_append, List.append_assoc]
    exact List.dropPrefix?_append_of_beq _ (beq_self_eq_true _)
  rw [appended?, argument]
  simp only [Option.bind_eq_bind, Option.bind_some, literal?_quoted, ↓reduceIte,
    String.ofList_toList]

theorem appendedText?_code (statement : Statement) :
    appendedText? (appendQuery statement).code = some (appendQuery statement).text := by
  have each : ∀ lines : List String,
      (lines.map fun line => "query.push_str(" ++ quoted line ++ ");").mapM appended? =
        some lines := by
    intro lines
    induction lines with
    | nil => rfl
    | cons line rest ih =>
      rw [List.map_cons, List.mapM_cons, appended?_line, ih]
      rfl
  simp only [appendQuery, appendedText?, ↓reduceIte, each, Option.map_some]

end Appended

section Literal

/-- A character of a fence. -/
def isFenceChar (c : Char) : Bool := c == '"' || c == '#'

theorem isFenceChar_of_isBlank (c : Char) (blank : isBlank c = true) : isFenceChar c = false := by
  have quote : c ≠ '"' := by
    rintro rfl
    exact absurd blank (by decide)
  have hash : c ≠ '#' := by
    rintro rfl
    exact absurd blank (by decide)
  simp [isFenceChar, quote, hash]

theorem fenceStretches_ignoreBlanks : IgnoresBlanks (stretches isFenceChar) where
  nil := rfl
  blank before after c blank :=
    stretches_append_border before after c (isFenceChar_of_isBlank c blank)

theorem fence_infix_iff (text : List Char) :
    fence <:+: text ↔ ∃ stretch ∈ stretches isFenceChar text, fence <:+: stretch :=
  infix_iff_exists_stretch text fence (by decide) (by decide)

/-- A fence does not span fragments, since blanks stand between them. -/
theorem fence_infix_write_iff (strategy : RenderStrategy) (statement : Statement) :
    fence <:+: (strategy.write statement).text.toList ↔
      ∃ fragment ∈ statement.fragments, fence <:+: fragment.text.toList := by
  rw [fence_infix_iff, read_write fenceStretches_ignoreBlanks, Statement.reading]
  constructor
  · rintro ⟨stretch, among, inside⟩
    obtain ⟨fragment, member, own⟩ := List.mem_flatMap.1 among
    exact ⟨fragment, member, (fence_infix_iff _).2 ⟨stretch, own, inside⟩⟩
  · rintro ⟨fragment, member, inside⟩
    obtain ⟨stretch, own, within⟩ := (fence_infix_iff _).1 inside
    exact ⟨stretch, List.mem_flatMap.2 ⟨fragment, member, own⟩, within⟩

/-- The lines of a literal have its text between the line that opens it and the fence. -/
theorem intercalate_literalCode (statement : Statement) (filled : statement.fragments ≠ []) :
    "\n".intercalate (literalQuery statement).code =
      "let query = r#\"" ++ ((literalQuery statement).text ++ "\"#;") := by
  have lines : statement.fragments.map (·.line) ≠ [] := by
    simpa using filled
  simp only [literalQuery]
  rw [List.cons_append, String.intercalate_cons_of_ne_nil (by simp),
    String.intercalate_append_of_ne_nil lines (by simp), String.intercalate_singleton]
  simp only [String.append_assoc]

/-- Where a mark stands in a text there is a first place where it does. -/
theorem exists_dropInfix? (text mark : List Char) (inside : mark <:+: text) :
    ∃ content left, text.dropInfix? mark = some (content, left) ∧
      text = content ++ mark ++ left ∧
      ∀ start rest, text = start ++ mark ++ rest → content.length ≤ start.length := by
  classical
  have somewhere : ∃ place, ∃ start rest, start.length = place ∧ text = start ++ mark ++ rest := by
    obtain ⟨start, rest, cut⟩ := inside
    exact ⟨start.length, start, rest, rfl, cut.symm⟩
  obtain ⟨content, left, length, cut⟩ := Nat.find_spec somewhere
  have first : ∀ start rest, text = start ++ mark ++ rest → content.length ≤ start.length := by
    intro start rest other
    rw [length]
    exact Nat.find_min' somewhere ⟨start, rest, rfl, other⟩
  refine ⟨content, left, List.dropInfix?_eq_some_iff.2 ⟨⟨mark, cut, beq_self_eq_true mark⟩, ?_⟩,
    cut, first⟩
  intro start other rest place same
  rw [eq_of_beq same] at place
  exact first start rest place

/-- A text that is followed by a fence is read as a whole if it has no fence of its own. -/
theorem exists_content (text after : List Char) (ends : ∀ c ∈ text.getLast?, c ≠ '"') :
    ∃ content left, (text ++ fence ++ after).dropInfix? fence = some (content, left) ∧
      content <+: text ∧ (content = text ↔ ¬ fence <:+: text) ∧
      (content = text → left = after) := by
  obtain ⟨content, left, found, cut, first⟩ :=
    exists_dropInfix? (text ++ fence ++ after) fence ⟨text, after, rfl⟩
  have short : content.length ≤ text.length := first text after rfl
  have start : content <+: text := by
    have whole : content <+: text ++ fence ++ after := by
      rw [cut, List.append_assoc]
      exact List.prefix_append content _
    rw [List.append_assoc] at whole
    exact List.prefix_of_prefix_length_le whole (List.prefix_append text _) short
  refine ⟨content, left, found, start, ⟨?_, ?_⟩, ?_⟩
  · rintro rfl ⟨before, rest, inside⟩
    have earlier := first before (rest ++ fence ++ after) (by simp [← inside])
    have shorter : (before ++ fence ++ rest).length = content.length := congrArg List.length inside
    simp only [List.length_append, fence, List.length_cons, List.length_nil] at shorter
    omega
  · intro absent
    obtain ⟨missed, rfl⟩ := start
    simp only [List.append_assoc, List.append_cancel_left_eq] at cut
    -- What is missed would be a fence, or its quote would be the last character.
    match missed with
    | [] => rw [List.append_nil]
    | [c] =>
      have quote : c = '"' := (List.cons.inj cut).1
      exact absurd quote (ends c (by simp))
    | c :: d :: rest =>
      obtain ⟨quote, tail⟩ := List.cons.inj cut
      have hash : d = '#' := (List.cons.inj tail).1
      subst quote hash
      exact absurd ⟨content, rest, by simp [fence]⟩ absent
  · rintro rfl
    simpa using cut.symm

/-- Code is read up to the raw literal that it begins with. -/
theorem rawLiteral?_opened (code : List Char) :
    rawLiteral? (String.ofList ("let query = r#\"".toList ++ code)) =
      (code.dropInfix? fence).map fun (content, left) =>
        (String.ofList content, String.ofList left) := by
  have opened : ("let query = r#\"".toList ++ code).dropInfix? "r#\"".toList =
      some ("let query = ".toList, code) := by
    simp [List.dropInfix?, List.dropInfix?.go, List.dropPrefix?]
  rw [rawLiteral?, String.toList_ofList, opened]
  cases found : code.dropInfix? fence with
  | none => simp [found]
  | some parts => simp [found]

end Literal

/-- Code builds the text that is recorded for it: what appends does so for all fragments, and a
raw literal does unless a fragment ends it. -/
theorem code_builds_text (statement : Statement) :
    appendedText? (appendQuery statement).code = some (appendQuery statement).text ∧
    (statement.fragments ≠ [] → ∃ content left,
      rawLiteral? ("\n".intercalate (literalQuery statement).code) = some (content, left) ∧
      content.toList <+: (literalQuery statement).text.toList ∧
      (content = (literalQuery statement).text ↔
        ∀ fragment ∈ statement.fragments, ¬ "\"#".toList <:+: fragment.text.toList) ∧
      (content = (literalQuery statement).text → left = ";")) := by
  refine ⟨appendedText?_code statement, fun filled => ?_⟩
  have ends : ∀ c ∈ (literalQuery statement).text.toList.getLast?, c ≠ '"' := by
    have newline : (literalQuery statement).text.toList.getLast? = some '\n' := by
      rw [literalQuery, String.toList_append]
      exact List.getLast?_concat
    intro c last
    rw [newline, Option.mem_some_iff] at last
    rw [← last]
    decide
  obtain ⟨content, left, found, start, whole, rest⟩ :=
    exists_content (literalQuery statement).text.toList [';'] ends
  have code : "\n".intercalate (literalQuery statement).code =
      String.ofList ("let query = r#\"".toList ++
        ((literalQuery statement).text.toList ++ fence ++ [';'])) := by
    rw [intercalate_literalCode statement filled, ← String.toList_inj]
    simp [fence]
  have fences := fence_infix_write_iff .literalBlock statement
  refine ⟨String.ofList content, String.ofList left, ?_, ?_, ?_, ?_⟩
  · rw [code, rawLiteral?_opened, found, Option.map_some]
  · rw [String.toList_ofList]
    exact start
  · have mark : "\"#".toList = fence := rfl
    rw [RenderStrategy.write] at fences
    rw [← String.toList_inj, String.toList_ofList, whole, fences, mark]
    simp only [not_exists, not_and]
  · intro same
    rw [← String.toList_inj, String.toList_ofList] at same
    rw [rest same]

/-- A quote at the end of a line and a hash at the beginning of the next are no fence. -/
def measures : Statement :=
  ⟨[⟨0, "select 3 as \""⟩, ⟨1, "#\""⟩]⟩

/-- The whole text is read, and less where a fragment has a fence. -/
theorem code_builds_text_measures :
    measures.fragments ≠ [] ∧
    appendedText? (appendQuery measures).code = some (appendQuery measures).text ∧
    rawLiteral? ("\n".intercalate (literalQuery measures).code) =
      some ((literalQuery measures).text, ";") ∧
    ∃ content left, rawLiteral?
        ("\n".intercalate (literalQuery (measures.item "\"#")).code) = some (content, left) ∧
      content ≠ (literalQuery (measures.item "\"#")).text := by
  obtain ⟨appended, literal⟩ := code_builds_text measures
  obtain ⟨content, left, read, -, whole, rest⟩ := literal (by decide)
  have text : content = (literalQuery measures).text := whole.2 (by decide)
  obtain ⟨-, fenced⟩ := code_builds_text (measures.item "\"#")
  obtain ⟨less, more, readLess, -, wholeLess, -⟩ := fenced (by decide)
  refine ⟨by decide, appended, ?_, less, more, readLess, ?_⟩
  · rw [read, rest text, text]
  · rw [ne_eq, wholeLess]
    decide

end DataAccess.Sql

import DataAccess.ColumnType
import DataAccess.Proofs.Outcome
import DataAccess.Proofs.Text.Stretches
import Mathlib.Data.List.DropRight

/-!
The grammar of declared types. A declared type is a base name, or a base name and one or more
arguments in parentheses. Blanks around the whole and spaces around the base name do not count;
between the parentheses there may be spaces, tabs and line ends around every argument. Exactly the
texts of this grammar are declared types when they are taken apart at their borders.
-/
set_option autoImplicit false

namespace DataAccess

namespace Text

/-- What is left of a text without the characters of a kind around it. -/
structure IsTrimmed (kind : Char → Bool) (text core : List Char) : Prop where
  around : ∃ before after, text = before ++ core ++ after ∧
    (∀ c ∈ before, kind c = true) ∧ ∀ c ∈ after, kind c = true
  first : ∀ c ∈ core.head?, kind c = false
  last : ∀ c ∈ core.getLast?, kind c = false

section Trimming

variable {kind other : Char → Bool} {text core : List Char}

theorem isTrimmed_trim (text : List Char) :
    IsTrimmed kind text ((text.dropWhile kind).rdropWhile kind) := by
  have behind := (text.dropWhile kind).rdropWhile_append_rtakeWhile (p := kind)
  refine ⟨⟨text.takeWhile kind, (text.dropWhile kind).rtakeWhile kind, ?_, ?_, ?_⟩, ?_, ?_⟩
  · rw [List.append_assoc, behind, List.takeWhile_append_dropWhile]
  · exact fun c member => List.mem_takeWhile_imp member
  · exact fun c member => List.mem_rtakeWhile_imp member
  · intro c member
    apply head?_dropWhile kind text c
    rw [← behind, List.head?_append, Option.mem_def.1 member]
    rfl
  · intro c member
    rw [List.rdropWhile, List.getLast?_reverse] at member
    exact head?_dropWhile kind _ c member

theorem IsTrimmed.eq_trim (trimmed : IsTrimmed kind text core) :
    core = (text.dropWhile kind).rdropWhile kind := by
  obtain ⟨⟨before, after, rfl, blankBefore, blankAfter⟩, first, last⟩ := trimmed
  rw [List.append_assoc, List.dropWhile_append_of_pos blankBefore]
  by_cases empty : core = []
  · subst empty
    have nothing : after.dropWhile kind = [] := List.dropWhile_eq_nil_iff.2 blankAfter
    rw [List.nil_append, nothing, List.rdropWhile_nil]
  · have begins : ∀ c ∈ (core ++ after).head?, kind c = false := by
      rwa [List.head?_append_of_ne_nil _ empty]
    have reversed : ∀ c ∈ core.reverse.head?, kind c = false := by
      rwa [List.head?_reverse]
    have ends : (core ++ after).rdropWhile kind = core := by
      have behind : ∀ c ∈ after.reverse, kind c = true := by simpa using blankAfter
      rw [List.rdropWhile, List.reverse_append, (span_append_of_head _ _ behind reversed).2,
        List.reverse_reverse]
    have kept := (span_append_of_head [] (core ++ after) (by simp) begins).2
    rw [List.nil_append] at kept
    rw [kept, ends]

/-- There is one way to trim a text. -/
theorem isTrimmed_iff :
    IsTrimmed kind text core ↔ (text.dropWhile kind).rdropWhile kind = core := by
  constructor
  · exact fun trimmed => trimmed.eq_trim.symm
  · rintro rfl
    exact isTrimmed_trim text

theorem isTrimmed_blank_iff : IsTrimmed isBlank text core ↔ trimBlank text = core :=
  isTrimmed_iff

/-- Only the kinds of the characters that a text has count. -/
theorem IsTrimmed.congr (trimmed : IsTrimmed kind text core)
    (same : ∀ c ∈ text, kind c = other c) : IsTrimmed other text core := by
  obtain ⟨⟨before, after, rfl, blankBefore, blankAfter⟩, first, last⟩ := trimmed
  simp only [List.forall_mem_append] at same
  obtain ⟨⟨sameBefore, sameCore⟩, sameAfter⟩ := same
  refine ⟨⟨before, after, rfl, ?_, ?_⟩, ?_, ?_⟩
  · exact fun c member => sameBefore c member ▸ blankBefore c member
  · exact fun c member => sameAfter c member ▸ blankAfter c member
  · exact fun c member => sameCore c (List.mem_of_head? member) ▸ first c member
  · exact fun c member => sameCore c (List.mem_of_getLast? member) ▸ last c member

theorem isTrimmed_congr (same : ∀ c ∈ text, kind c = other c) :
    IsTrimmed kind text core ↔ IsTrimmed other text core :=
  ⟨fun trimmed => trimmed.congr same, fun trimmed => trimmed.congr fun c member =>
    (same c member).symm⟩

/-- Characters of another kind are kept by trimming. -/
theorem isTrimmed_of_other (before after : List Char) (other : ∀ c ∈ core, kind c = false)
    (blankBefore : ∀ c ∈ before, kind c = true) (blankAfter : ∀ c ∈ after, kind c = true) :
    IsTrimmed kind (before ++ core ++ after) core :=
  ⟨⟨before, after, rfl, blankBefore, blankAfter⟩,
    fun c member => other c (List.mem_of_head? member),
    fun c member => other c (List.mem_of_getLast? member)⟩

end Trimming

end Text

open Text

namespace DeclaredType

/-- The part before the arguments: letters, numbers, underscores and spaces, from which the base
name is what stands between the spaces around it. -/
structure IsBase (part name : List Char) : Prop where
  letters : ∀ c ∈ part, isIdentChar c = true ∨ c = ' '
  filled : ∃ c ∈ part, c ≠ ' '
  trimmed : IsTrimmed (· == ' ') part name

/-- One argument of letters and numbers, with spaces, tabs and line ends around it or without. -/
structure IsArgument (part : List Char) (word : String) : Prop where
  around : ∃ before after, part = before ++ word.toList ++ after ∧
    (∀ c ∈ before, c ∈ [' ', '\t', '\r', '\n']) ∧ ∀ c ∈ after, c ∈ [' ', '\t', '\r', '\n']
  filled : word ≠ ""
  letters : ∀ c ∈ word.toList, isAlphanumeric c = true

/-- The texts without blanks around them that declare a type. -/
inductive Declares : List Char → DeclaredType → Prop where
  | plain (part name : List Char) (isBase : IsBase part name) :
      Declares part ⟨String.ofList (lowercase name), []⟩
  | applied (part name : List Char) (parts : List (List Char)) (arguments : List String)
      (isBase : IsBase part name) (filled : parts ≠ [])
      (each : List.Forall₂ IsArgument parts arguments) :
      Declares (part ++ '(' :: [','].intercalate parts ++ [')'])
        ⟨String.ofList (lowercase name), arguments⟩

/-- A text that declares a type, with blanks around it or without. -/
def IsDeclaration (text : String) (type : DeclaredType) : Prop :=
  ∃ core, IsTrimmed isBlank text.toList core ∧ Declares core type

section Base

theorem isBaseChar_iff (c : Char) : isBaseChar c = true ↔ isIdentChar c = true ∨ c = ' ' := by
  simp [isBaseChar]

/-- Of the blanks only the space can stand in a base name. -/
theorem isBlank_eq_of_isBaseChar (c : Char) (letter : isBaseChar c = true) :
    isBlank c = (c == ' ') := by
  rcases (isBaseChar_iff c).1 letter with inside | rfl
  · have solid : isBlank c = false := by
      cases blank : isBlank c with
      | false => rfl
      | true =>
        rw [isIdentChar_of_isBlank c blank] at inside
        cases inside
    have different : c ≠ ' ' := by
      rintro rfl
      exact absurd isBlank_space (by simp [solid])
    simp [solid, different]
  · decide

/-- The name of a base is what is left of it without blanks, if anything is. -/
theorem isBase_iff (part name : List Char) (letters : ∀ c ∈ part, isBaseChar c = true) :
    IsBase part name ↔ trimBlank part = name ∧ name ≠ [] := by
  have trims : IsTrimmed (· == ' ') part name ↔ trimBlank part = name := by
    rw [← isTrimmed_blank_iff]
    exact isTrimmed_congr fun c member => (isBlank_eq_of_isBaseChar c (letters c member)).symm
  constructor
  · rintro ⟨-, ⟨c, member, different⟩, trimmed⟩
    refine ⟨trims.1 trimmed, ?_⟩
    rintro rfl
    obtain ⟨before, after, rfl, blankBefore, blankAfter⟩ := trimmed.around
    rw [List.append_nil, List.mem_append] at member
    rcases member with inside | inside
    · exact different (eq_of_beq (blankBefore c inside))
    · exact different (eq_of_beq (blankAfter c inside))
  · rintro ⟨trim, filled⟩
    have trimmed := trims.2 trim
    obtain ⟨first, rest, rfl⟩ := List.exists_cons_of_ne_nil filled
    have solid := trimmed.first first rfl
    refine ⟨fun c member => (isBaseChar_iff c).1 (letters c member), ⟨first, ?_, ?_⟩, trimmed⟩
    · obtain ⟨before, after, rfl, -, -⟩ := trimmed.around
      simp
    · exact beq_eq_false_iff_ne.1 solid

end Base

section Arguments

theorem isArgumentSpace_iff (c : Char) :
    isArgumentSpace c = true ↔ c ∈ [' ', '\t', '\r', '\n'] := by
  simp [isArgumentSpace, or_assoc]

theorem isArgumentSpace_of_isAlphanumeric (c : Char) (letter : isAlphanumeric c = true) :
    isArgumentSpace c = false := by
  have apart : ∀ d ∈ [' ', '\t', '\r', '\n'], isAlphanumeric d = false := by decide
  cases space : isArgumentSpace c with
  | false => rfl
  | true =>
    rw [apart c ((isArgumentSpace_iff c).1 space)] at letter
    cases letter

theorem isAlphanumeric_of_isArgumentSpace (c : Char) (space : isArgumentSpace c = true) :
    isAlphanumeric c = false := by
  cases letter : isAlphanumeric c with
  | false => rfl
  | true =>
    rw [isArgumentSpace_of_isAlphanumeric c letter] at space
    cases space

theorem argument?_eq_some_iff (part : List Char) (word : String) :
    argument? part = some word ↔ IsArgument part word := by
  have filled : word ≠ "" ↔ word.toList ≠ [] := by simp
  have read : argument? part = some word ↔
      IsTrimmed isArgumentSpace part word.toList ∧ word.toList ≠ [] ∧
        ∀ c ∈ word.toList, isAlphanumeric c = true := by
    rw [isTrimmed_iff, argument?, List.rdropWhile]
    constructor
    · intro found
      simp only [Option.ite_none_right_eq_some, Bool.and_eq_true, Bool.not_eq_eq_eq_not,
        Bool.not_true, List.isEmpty_eq_false_iff, List.all_eq_true, Option.some.injEq] at found
      obtain ⟨word, rfl⟩ := found
      rw [String.toList_ofList]
      exact ⟨rfl, word⟩
    · rintro ⟨trim, some, letters⟩
      have all : word.toList.all isAlphanumeric = true := List.all_eq_true.2 letters
      simp [trim, some, all]
  rw [read]
  constructor
  · rintro ⟨trimmed, some, letters⟩
    obtain ⟨before, after, whole, blankBefore, blankAfter⟩ := trimmed.around
    refine ⟨⟨before, after, whole, ?_, ?_⟩, filled.2 some, letters⟩
    · exact fun c member => (isArgumentSpace_iff c).1 (blankBefore c member)
    · exact fun c member => (isArgumentSpace_iff c).1 (blankAfter c member)
  · rintro ⟨⟨before, after, rfl, spaceBefore, spaceAfter⟩, some, letters⟩
    refine ⟨?_, filled.1 some, letters⟩
    exact isTrimmed_of_other before after
      (fun c member => isArgumentSpace_of_isAlphanumeric c (letters c member))
      (fun c member => (isArgumentSpace_iff c).2 (spaceBefore c member))
      (fun c member => (isArgumentSpace_iff c).2 (spaceAfter c member))

theorem IsArgument.comma_not_mem {part : List Char} {word : String}
    (isArgument : IsArgument part word) : ',' ∉ part := by
  obtain ⟨⟨before, after, rfl, spaceBefore, spaceAfter⟩, -, letters⟩ := isArgument
  simp only [List.mem_append, not_or]
  refine ⟨⟨?_, ?_⟩, ?_⟩
  · exact fun inside => absurd (spaceBefore ',' inside) (by decide)
  · exact fun inside => absurd (letters ',' inside) (by decide)
  · exact fun inside => absurd (spaceAfter ',' inside) (by decide)

/-- Arguments are read from what is between the parentheses if commas separate it into some. -/
theorem arguments?_eq_some_iff (inner : List Char) (arguments : List String) :
    arguments? inner = some arguments ↔
      ∃ parts, parts ≠ [] ∧ inner = [','].intercalate parts ∧
        List.Forall₂ IsArgument parts arguments := by
  have whole : ∀ parts, List.Forall₂ IsArgument parts arguments →
      ∀ part ∈ parts, ',' ∉ part := by
    intro parts each part member
    obtain ⟨word, -, isArgument⟩ := exists_of_mem_forall₂ each.flip part member
    exact isArgument.comma_not_mem
  simp only [arguments?, mapM_eq_some_iff, argument?_eq_some_iff]
  constructor
  · intro each
    have parts := (pieces_eq_iff ',' inner _ (whole _ each)).1 rfl
    exact ⟨_, parts.1, parts.2, each⟩
  · rintro ⟨parts, filled, same, each⟩
    rwa [(pieces_eq_iff ',' inner parts (whole parts each)).2 ⟨filled, same⟩]

end Arguments

section Reading

variable (part : List Char) (letters : ∀ c ∈ part, isBaseChar c = true) (type : DeclaredType)
include letters

/-- A base alone declares a type without arguments. -/
theorem parseChars?_base :
    parseChars? part = some type ↔
      ∃ name, IsBase part name ∧ type = ⟨String.ofList (lowercase name), []⟩ := by
  obtain ⟨taken, left⟩ := span_append_of_head part [] letters (by simp)
  rw [List.append_nil] at taken left
  simp only [isBase_iff part _ letters, parseChars?, taken, left, List.isEmpty_iff]
  by_cases empty : trimBlank part = []
  · simp [empty]
  · simp [empty, eq_comm]

/-- Behind a base stand arguments in parentheses. -/
theorem parseChars?_applied (inner : List Char) :
    parseChars? (part ++ '(' :: inner ++ [')']) = some type ↔
      ∃ name arguments, IsBase part name ∧ arguments? inner = some arguments ∧
        type = ⟨String.ofList (lowercase name), arguments⟩ := by
  have border : ∀ c ∈ ('(' :: inner ++ [')']).head?, isBaseChar c = false := by
    simpa using (by decide : isBaseChar '(' = false)
  obtain ⟨taken, left⟩ := span_append_of_head part _ letters border
  rw [List.append_assoc]
  simp only [isBase_iff part _ letters, parseChars?, taken, left, List.isEmpty_iff]
  by_cases empty : trimBlank part = []
  · simp [empty]
  · simp only [empty, ↓reduceIte, List.cons_append, List.getLast?_concat, List.dropLast_concat,
      Option.map_eq_some_iff]
    constructor
    · rintro ⟨arguments, read, rfl⟩
      exact ⟨_, arguments, ⟨rfl, empty⟩, read, rfl⟩
    · rintro ⟨name, arguments, ⟨rfl, -⟩, read, rfl⟩
      exact ⟨arguments, read, rfl⟩

/-- Nothing else can stand behind a base. -/
theorem exists_inner_of_parseChars? (rest : List Char) (filled : rest ≠ [])
    (border : ∀ c ∈ rest.head?, isBaseChar c = false)
    (read : parseChars? (part ++ rest) = some type) :
    ∃ inner, rest = '(' :: inner ++ [')'] := by
  obtain ⟨taken, left⟩ := span_append_of_head part rest letters border
  simp only [parseChars?, taken, left] at read
  split at read
  · cases read
  · split at read
    · exact absurd rfl filled
    · rename_i behind
      split at read
      · rename_i closing
        obtain ⟨inner, rfl⟩ := List.getLast?_eq_some_iff.1 closing
        exact ⟨inner, rfl⟩
      · cases read
    · cases read

omit letters in
/-- The texts without blanks around them that are read are those that declare a type. -/
theorem parseChars?_eq_some_iff (text : List Char) :
    parseChars? text = some type ↔ Declares text type := by
  constructor
  · intro read
    have letters : ∀ c ∈ text.takeWhile isBaseChar, isBaseChar c = true :=
      fun c member => List.mem_takeWhile_imp member
    have border := head?_dropWhile isBaseChar text
    rw [← List.takeWhile_append_dropWhile (p := isBaseChar) (l := text)] at read ⊢
    by_cases ended : text.dropWhile isBaseChar = []
    · rw [ended, List.append_nil] at read ⊢
      obtain ⟨name, isBase, rfl⟩ := (parseChars?_base _ letters type).1 read
      exact .plain _ name isBase
    · obtain ⟨inner, behind⟩ := exists_inner_of_parseChars? _ letters type _ ended border read
      rw [behind, ← List.append_assoc] at read ⊢
      obtain ⟨name, arguments, isBase, found, rfl⟩ :=
        (parseChars?_applied _ letters type inner).1 read
      obtain ⟨parts, filled, rfl, each⟩ := (arguments?_eq_some_iff inner arguments).1 found
      exact .applied _ name parts arguments isBase filled each
  · intro declares
    cases declares with
    | plain _ name isBase =>
      have letters : ∀ c ∈ text, isBaseChar c = true :=
        fun c member => (isBaseChar_iff c).2 (isBase.letters c member)
      exact (parseChars?_base text letters _).2 ⟨name, isBase, rfl⟩
    | applied part name parts arguments isBase filled each =>
      have letters : ∀ c ∈ part, isBaseChar c = true :=
        fun c member => (isBaseChar_iff c).2 (isBase.letters c member)
      have found := (arguments?_eq_some_iff _ arguments).2 ⟨parts, filled, rfl, each⟩
      exact (parseChars?_applied part letters _ _).2 ⟨name, arguments, isBase, found, rfl⟩

omit letters in
theorem parse?_eq_some_iff (text : String) :
    parse? text = some type ↔ IsDeclaration text type := by
  simp only [IsDeclaration, isTrimmed_blank_iff, exists_eq_left', parse?, parseChars?_eq_some_iff]

end Reading

end DeclaredType

end DataAccess

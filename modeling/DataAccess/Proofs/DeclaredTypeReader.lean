import DataAccess.Proofs.DeclaredTypes
import DataAccess.Proofs.Text.Readers

/-!
Declared types read from left to right. A reader takes the longest base, then a group of arguments
if all of one is there, and wants nothing of the text to be left. It reads the same texts as the
grammar has, and what they resolve to depends on their base name alone.
-/
set_option autoImplicit false

namespace DataAccess

open Text

namespace DeclaredType

/-- Another argument behind one: a comma with blanks around it or without, and a word. -/
def readNext? (text : List Char) : Option (List Char × List Char) :=
  match text.dropWhile isArgumentSpace with
  | ',' :: rest => readWord? isAlphanumeric (rest.dropWhile isArgumentSpace)
  | _ => none

/-- One or more words with commas between them. -/
def readArguments? (text : List Char) : Option (List (List Char) × List Char) := do
  let (first, rest) ← readWord? isAlphanumeric text
  let (others, left) ← readMany? readNext? rest
  return (first :: others, left)

/-- Arguments in parentheses. -/
def readGroup? : List Char → Option (List (List Char) × List Char)
  | '(' :: rest => do
    let (arguments, left) ← readArguments? (rest.dropWhile isArgumentSpace)
    match left.dropWhile isArgumentSpace with
    | ')' :: behind => return (arguments, behind)
    | _ => none
  | _ => none

/-- A base and the group behind it. Where there is no group, nothing but the base is taken. -/
def readType? (text : List Char) : Option (DeclaredType × List Char) := do
  let (part, rest) ← readWord? isBaseChar text
  let (arguments, left) := (readGroup? rest).getD ([], rest)
  if trimBlank part = [] then none
  else return (⟨String.ofList (lowercase (trimBlank part)), arguments.map String.ofList⟩, left)

/-- Reads a declared type from left to right; there must be nothing left of the text. -/
def read? (text : String) : Option DeclaredType :=
  match readType? (trimBlank text.toList) with
  | some (type, []) => some type
  | _ => none

section Reader

/-- Further arguments, each behind a comma. -/
def listed (parts : List (List Char)) : List Char :=
  parts.flatMap (',' :: ·)

theorem intercalate_cons_eq (part : List Char) (parts : List (List Char)) :
    [','].intercalate (part :: parts) = part ++ listed parts := by
  induction parts generalizing part with
  | nil => simp [listed]
  | cons next rest ih =>
    rw [List.intercalate_cons_cons, ih]
    simp [listed]

/-- More blanks make no other argument. -/
theorem IsArgument.append_space {part : List Char} {word : String} (isArgument : IsArgument part word)
    (space : List Char) (blank : ∀ c ∈ space, c ∈ [' ', '\t', '\r', '\n']) :
    IsArgument (part ++ space) word := by
  obtain ⟨⟨before, after, rfl, blankBefore, blankAfter⟩, filled, letters⟩ := isArgument
  refine ⟨⟨before, after ++ space, by simp, blankBefore, ?_⟩, filled, letters⟩
  intro c member
  exact (List.mem_append.1 member).elim (blankAfter c) (blank c)

theorem isArgument_word (before word : List Char) (filled : word ≠ [])
    (letters : ∀ c ∈ word, isAlphanumeric c = true)
    (blank : ∀ c ∈ before, c ∈ [' ', '\t', '\r', '\n']) :
    IsArgument (before ++ word) (String.ofList word) := by
  refine ⟨⟨before, [], by simp, blank, by simp⟩, ?_, by simpa using letters⟩
  simpa [← String.toList_inj] using filled

theorem blank_of_mem_takeWhile (text : List Char) :
    ∀ c ∈ text.takeWhile isArgumentSpace, c ∈ [' ', '\t', '\r', '\n'] :=
  fun c member => (isArgumentSpace_iff c).1 (List.mem_takeWhile_imp member)

/-- What has been read behind an argument is further arguments. -/
theorem exists_parts_of_readMany? (text left begun : List Char) (word : String)
    (words : List (List Char)) (many : readMany? readNext? text = some (words, left))
    (isArgument : IsArgument begun word) :
    ∃ part parts, begun ++ text = part ++ listed parts ++ left.dropWhile isArgumentSpace ∧
      List.Forall₂ IsArgument (part :: parts) (word :: words.map String.ofList) := by
  induction length : text.length using Nat.strongRecOn generalizing text begun word words with
  | ind size ih =>
    rcases of_readMany?_eq_some text left words many with
      ⟨-, rfl, rfl⟩ | ⟨next, rest, later, first, shorter, again, rfl⟩
    · refine ⟨begun ++ left.takeWhile isArgumentSpace, [], ?_, ?_⟩
      · simp [listed]
      · exact .cons (isArgument.append_space _ (blank_of_mem_takeWhile left)) .nil
    · have spaces := List.takeWhile_append_dropWhile (p := isArgumentSpace) (l := text)
      unfold readNext? at first
      split at first
      · rename_i behind comma
        obtain ⟨cut, filled, letters, -⟩ := (readWord?_eq_some_iff _ _ _).1 first
        have more := List.takeWhile_append_dropWhile (p := isArgumentSpace) (l := behind)
        have wordly := isArgument_word _ next filled letters (blank_of_mem_takeWhile behind)
        obtain ⟨part, parts, whole, each⟩ :=
          ih rest.length (length ▸ shorter) rest _ _ later again wordly rfl
        refine ⟨begun ++ text.takeWhile isArgumentSpace, part :: parts, ?_, ?_⟩
        · calc begun ++ text
              = begun ++ text.takeWhile isArgumentSpace ++ ',' :: behind := by
                rw [List.append_assoc, ← comma, spaces]
            _ = begun ++ text.takeWhile isArgumentSpace ++
                  ',' :: (part ++ listed parts ++ left.dropWhile isArgumentSpace) := by
                rw [← whole, List.append_assoc _ next, ← cut, more]
            _ = _ := by simp [listed]
        · exact .cons (isArgument.append_space _ (blank_of_mem_takeWhile text)) each
      · cases first

/-- An argument is read up to the blanks behind it. -/
theorem exists_readWord? {part : List Char} {word : String} (isArgument : IsArgument part word)
    (rest : List Char) (border : ∀ c ∈ rest.head?, isAlphanumeric c = false) :
    ∃ after, (∀ c ∈ after, isArgumentSpace c = true) ∧
      readWord? isAlphanumeric ((part ++ rest).dropWhile isArgumentSpace) =
        some (word.toList, after ++ rest) := by
  obtain ⟨⟨before, after, rfl, blankBefore, blankAfter⟩, filled, letters⟩ := isArgument
  have lettered : word.toList ≠ [] := by simpa using filled
  obtain ⟨c, later, name⟩ := List.exists_cons_of_ne_nil lettered
  have solid : isArgumentSpace c = false :=
    isArgumentSpace_of_isAlphanumeric c (letters c (by simp [name]))
  have stripped := (span_append_of_head before (word.toList ++ (after ++ rest))
    (fun d member => (isArgumentSpace_iff d).2 (blankBefore d member))
    (by simpa [name] using solid)).2
  refine ⟨after, fun d member => (isArgumentSpace_iff d).2 (blankAfter d member), ?_⟩
  simp only [List.append_assoc, stripped]
  refine (readWord?_eq_some_iff _ _ _).2 ⟨rfl, lettered, letters, ?_⟩
  cases after with
  | nil => exact border
  | cons d others =>
    intro e first
    cases first
    exact isAlphanumeric_of_isArgumentSpace d
      ((isArgumentSpace_iff d).2 (blankAfter d List.mem_cons_self))

/-- What stands behind an argument is no part of it. -/
theorem head?_listed_append (parts : List (List Char)) (behind : List Char) :
    ∀ c ∈ (listed parts ++ ')' :: behind).head?, isAlphanumeric c = false := by
  cases parts with
  | nil => simpa [listed] using (by decide : isAlphanumeric ')' = false)
  | cons part rest => simpa [listed] using (by decide : isAlphanumeric ',' = false)

/-- Further arguments are read up to the blanks before the closing parenthesis. -/
theorem exists_readMany? (space behind : List Char)
    (blank : ∀ c ∈ space, isArgumentSpace c = true) (parts : List (List Char))
    (words : List String) (each : List.Forall₂ IsArgument parts words) :
    ∃ left, readMany? readNext? (space ++ listed parts ++ ')' :: behind) =
        some (words.map (·.toList), left) ∧
      left.dropWhile isArgumentSpace = ')' :: behind := by
  induction each generalizing space with
  | nil =>
    have closing : isArgumentSpace ')' = false := by decide
    have stripped := (span_append_of_head space (')' :: behind) blank (by simpa using closing)).2
    refine ⟨space ++ ')' :: behind, ?_, stripped⟩
    have ended : readNext? (space ++ listed [] ++ ')' :: behind) = none := by
      simp [readNext?, listed, stripped]
    simpa [listed] using readMany?_of_none _ ended
  | @cons part word parts words isArgument each ih =>
    obtain ⟨after, blankAfter, read⟩ := exists_readWord? isArgument (listed parts ++ ')' :: behind)
      (head?_listed_append parts behind)
    obtain ⟨left, many, closed⟩ := ih after blankAfter
    rw [List.append_assoc] at many
    have comma : isArgumentSpace ',' = false := by decide
    have stripped := (span_append_of_head space (',' :: (part ++ (listed parts ++ ')' :: behind)))
      blank (by simpa using comma)).2
    have text : space ++ listed (part :: parts) ++ ')' :: behind =
        space ++ ',' :: (part ++ (listed parts ++ ')' :: behind)) := by
      simp [listed]
    have next : readNext? (space ++ ',' :: (part ++ (listed parts ++ ')' :: behind))) =
        some (word.toList, after ++ (listed parts ++ ')' :: behind)) := by
      simp only [readNext?, stripped, read]
    have shorter : (after ++ (listed parts ++ ')' :: behind)).length <
        (space ++ ',' :: (part ++ (listed parts ++ ')' :: behind))).length := by
      have cut := ((readWord?_eq_some_iff _ _ _).1 read).1
      have kept := (List.dropWhile_suffix (p := isArgumentSpace)
        (l := part ++ (listed parts ++ ')' :: behind))).length_le
      rw [cut] at kept
      simp only [List.length_append, List.length_cons] at kept ⊢
      omega
    rw [text]
    exact ⟨left, readMany?_of_some _ _ left _ _ next shorter many, closed⟩

theorem exists_inner_of_readGroup? (text left : List Char) (words : List (List Char))
    (read : readGroup? text = some (words, left)) :
    ∃ parts, parts ≠ [] ∧ text = '(' :: [','].intercalate parts ++ ')' :: left ∧
      List.Forall₂ IsArgument parts (words.map String.ofList) := by
  unfold readGroup? at read
  split at read
  · rename_i rest
    simp only [readArguments?, Option.bind_eq_bind, Option.bind_eq_some_iff, Option.pure_def,
      Option.some.injEq, Prod.exists, Prod.mk.injEq] at read
    obtain ⟨_, ended, ⟨first, after, word, others, _, many, rfl, rfl⟩, closed⟩ := read
    split at closed
    · rename_i behind closing
      cases closed
      obtain ⟨cut, filled, letters, -⟩ := (readWord?_eq_some_iff _ _ _).1 word
      have spaces := List.takeWhile_append_dropWhile (p := isArgumentSpace) (l := rest)
      have wordly := isArgument_word _ first filled letters (blank_of_mem_takeWhile rest)
      obtain ⟨part, parts, whole, each⟩ := exists_parts_of_readMany? _ _ _ _ _ many wordly
      refine ⟨part :: parts, List.cons_ne_nil _ _, ?_, each⟩
      rw [intercalate_cons_eq, List.cons_append, ← closing, ← whole, List.append_assoc, ← cut,
        spaces]
    · cases closed
  · cases read

theorem readGroup?_of_parts (behind : List Char) (parts : List (List Char)) (words : List String)
    (filled : parts ≠ []) (each : List.Forall₂ IsArgument parts words) :
    readGroup? ('(' :: [','].intercalate parts ++ ')' :: behind) =
      some (words.map (·.toList), behind) := by
  cases each with
  | nil => contradiction
  | @cons part word parts words isArgument each =>
    obtain ⟨after, blankAfter, read⟩ := exists_readWord? isArgument (listed parts ++ ')' :: behind)
      (head?_listed_append parts behind)
    obtain ⟨left, many, closed⟩ := exists_readMany? after behind blankAfter parts words each
    rw [List.append_assoc] at many
    rw [intercalate_cons_eq, List.cons_append, List.append_assoc]
    simp only [readGroup?, readArguments?, read, many, closed, Option.bind_eq_bind,
      Option.bind_some, Option.pure_def, List.map_cons]

/-- A base is taken, and then a group if there is one. -/
theorem readType?_base (part name rest : List Char) (isBase : IsBase part name)
    (border : ∀ c ∈ rest.head?, isBaseChar c = false) :
    readType? (part ++ rest) =
      some (⟨String.ofList (lowercase name),
        ((readGroup? rest).getD ([], rest)).1.map String.ofList⟩,
        ((readGroup? rest).getD ([], rest)).2) := by
  have letters : ∀ c ∈ part, isBaseChar c = true :=
    fun c member => (isBaseChar_iff c).2 (isBase.letters c member)
  obtain ⟨rfl, named⟩ := (isBase_iff part name letters).1 isBase
  have filled : part ≠ [] := by
    rintro rfl
    exact named rfl
  have word : readWord? isBaseChar (part ++ rest) = some (part, rest) :=
    (readWord?_eq_some_iff _ part rest).2 ⟨rfl, filled, letters, border⟩
  simp only [readType?, word, Option.bind_eq_bind, Option.bind_some, if_neg named,
    Option.pure_def]

/-- The texts that are read without anything left are those that declare a type. -/
theorem readType?_eq_some_iff (text : List Char) (type : DeclaredType) :
    readType? text = some (type, []) ↔ Declares text type := by
  constructor
  · intro read
    simp only [readType?, Option.bind_eq_bind, Option.bind_eq_some_iff, Prod.exists,
      Option.ite_none_left_eq_some, Option.pure_def, Option.some.injEq, Prod.mk.injEq] at read
    obtain ⟨part, rest, word, named, rfl, ended⟩ := read
    obtain ⟨rfl, filled, letters, -⟩ := (readWord?_eq_some_iff _ _ _).1 word
    have isBase := (isBase_iff part _ letters).2 ⟨rfl, named⟩
    cases group : readGroup? rest with
    | none =>
      rw [group] at ended
      obtain rfl : rest = [] := ended
      simpa using Declares.plain part _ isBase
    | some found =>
      obtain ⟨words, left⟩ := found
      rw [group] at ended
      obtain rfl : left = [] := ended
      obtain ⟨parts, filled, rfl, each⟩ := exists_inner_of_readGroup? rest [] words group
      simpa using Declares.applied part _ parts _ isBase filled each
  · intro declares
    cases declares with
    | plain _ name isBase =>
      have whole := readType?_base text name [] isBase (by simp)
      rwa [List.append_nil] at whole
    | applied part name parts arguments isBase filled each =>
      have group := readGroup?_of_parts [] parts arguments filled each
      have opening : isBaseChar '(' = false := by decide
      have whole := readType?_base part name ('(' :: [','].intercalate parts ++ [')']) isBase
        (by simpa using opening)
      rw [List.append_assoc, whole, group]
      simp [Function.comp_def]

/-- Reading from left to right and taking the text apart at its borders come to the same. -/
theorem read?_eq_parse? (text : String) : read? text = parse? text := by
  have reads : ∀ type, read? text = some type ↔ parse? text = some type := by
    intro type
    rw [parse?, parseChars?_eq_some_iff, ← readType?_eq_some_iff, read?]
    split
    · rename_i other whole
      simp [whole]
    · rename_i others
      constructor
      · intro impossible
        cases impossible
      · intro whole
        exact absurd whole (others type)
  exact Option.ext reads

end Reader

/-- A declared type is what the grammar makes of a text. SQL Server types go by their base name,
whatever else the text has, and no text outside of the grammar is one. -/
theorem reads_declarations :
    (∀ text, read? text = parse? text) ∧
    (∀ text type, parse? text = some type ↔ IsDeclaration text type) ∧
    (∀ text other type otherType, IsDeclaration text type → IsDeclaration other otherType →
      type.base = otherType.base → sqlServerTypes text = sqlServerTypes other) ∧
    ∀ text, (∀ type, ¬ IsDeclaration text type) → sqlServerTypes text = none := by
  have resolved : ∀ text type, IsDeclaration text type →
      sqlServerTypes text = sqlServerBaseTypes.lookup type.base := by
    intro text type declaration
    rw [sqlServerTypes, (parse?_eq_some_iff type text).2 declaration]
    rfl
  refine ⟨read?_eq_parse?, fun text type => parse?_eq_some_iff type text, ?_, ?_⟩
  · intro text other type otherType declaration otherDeclaration same
    rw [resolved text type declaration, resolved other otherType otherDeclaration, same]
  · intro text outside
    cases read : parse? text with
    | none => rw [sqlServerTypes, read]; rfl
    | some type => exact absurd ((parse?_eq_some_iff type text).1 read) (outside type)

/-- Case, spaces and arguments make no difference to what a text resolves to; a comma too many
makes it no declared type. -/
theorem reads_declarations_decimal :
    IsDeclaration " Decimal (12,\t2 )\n" ⟨"decimal", ["12", "2"]⟩ ∧
    IsDeclaration "DECIMAL" ⟨"decimal", []⟩ ∧
    sqlServerTypes " Decimal (12,\t2 )\n" = sqlServerTypes "DECIMAL" ∧
    sqlServerTypes "DECIMAL" = some ⟨"Decimal", .decimal⟩ ∧
    sqlServerTypes "decimal(12,)" = none := by
  obtain ⟨-, read, resolved, outside⟩ := reads_declarations
  have applied := (read " Decimal (12,\t2 )\n" ⟨"decimal", ["12", "2"]⟩).1 (by decide +kernel)
  have plain := (read "DECIMAL" ⟨"decimal", []⟩).1 (by decide +kernel)
  have unread : DeclaredType.parse? "decimal(12,)" = none := by decide +kernel
  refine ⟨applied, plain, resolved _ _ _ _ applied plain rfl, by decide +kernel, ?_⟩
  apply outside
  intro type declaration
  rw [(read _ type).2 declaration] at unread
  cases unread

end DeclaredType

end DataAccess

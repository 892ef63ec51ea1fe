import DataAccess.Proofs.Text.Words
import DataAccess.Sql.Query

/-!
The layout of statement text is its white space and the tightness of its parentheses. A reading
that ignores layout reads the same from the raw text that generated code builds, from its normal
form and from the canonical text: in each of them it reads the fragments one by one.
-/
set_option autoImplicit false

namespace DataAccess.Sql

open Text

/-- A reading that also does not mind whether white space stands inside of a parenthesis. -/
structure IgnoresLayout {α : Type} (read : List Char → List α) : Prop
    extends IgnoresBlanks read where
  opening : ∀ before after, read (before ++ '(' :: after) = read (before ++ ['(']) ++ read after
  closing : ∀ before after, read (before ++ ')' :: after) = read before ++ read (')' :: after)

namespace IgnoresLayout

variable {α : Type} {read : List Char → List α}

theorem tightenOpen (ignores : IgnoresLayout read) (before text : List Char) :
    read (before ++ Sql.tightenOpen text) = read (before ++ text) := by
  induction text using Sql.tightenOpen.induct generalizing before with
  | case1 => rfl
  | case2 rest ih =>
    have inner := ih []
    simp only [List.nil_append] at inner
    rw [Sql.tightenOpen, ignores.opening, inner, ignores.opening before (' ' :: rest),
      ignores.blank_cons ' ' rest isBlank_space]
  | case3 c rest other ih =>
    have step : Sql.tightenOpen (c :: rest) = c :: Sql.tightenOpen rest :=
      Sql.tightenOpen.eq_3 c rest other
    rw [step]
    simpa using ih (before ++ [c])

theorem tightenClose (ignores : IgnoresLayout read) (before text : List Char) :
    read (before ++ Sql.tightenClose text) = read (before ++ text) := by
  induction text using Sql.tightenClose.induct generalizing before with
  | case1 => rfl
  | case2 rest ih =>
    have inner := ih [')']
    simp only [List.singleton_append] at inner
    rw [Sql.tightenClose, ignores.closing, inner, ignores.blank _ _ ' ' isBlank_space]
  | case3 c rest other ih =>
    have step : Sql.tightenClose (c :: rest) = c :: Sql.tightenClose rest :=
      Sql.tightenClose.eq_3 c rest other
    rw [step]
    simpa using ih (before ++ [c])

/-- The normal form of a text reads as the text itself. -/
theorem normalizeChars (ignores : IgnoresLayout read) (text : List Char) :
    read (Sql.normalizeChars text) = read text := by
  have closed := ignores.tightenClose [] (Sql.tightenOpen ([' '].intercalate (words text)))
  have opened := ignores.tightenOpen [] ([' '].intercalate (words text))
  simp only [List.nil_append] at closed opened
  rw [Sql.normalizeChars, closed, opened, ignores.intercalate ' ' isBlank_space,
    ← ignores.eq_flatMap_words]

theorem normalize (ignores : IgnoresLayout read) (text : String) :
    read (Sql.normalize text).toList = read text.toList := by
  rw [Sql.normalize, String.toList_ofList, ignores.normalizeChars]

end IgnoresLayout

/-- What is read from the fragments of a statement one by one. -/
def Statement.reading {α : Type} (read : List Char → List α) (statement : Statement) : List α :=
  statement.fragments.flatMap fun fragment => read fragment.text.toList

section Statements

variable {α : Type} {read : List Char → List α}

@[simp] theorem reading_empty : ({} : Statement).reading read = [] := rfl

@[simp] theorem reading_keyword (statement : Statement) (text : String) :
    (statement.keyword text).reading read = statement.reading read ++ read text.toList := by
  simp [Statement.reading, Statement.keyword]

@[simp] theorem reading_item (statement : Statement) (text : String) :
    (statement.item text).reading read = statement.reading read ++ read text.toList := by
  simp [Statement.reading, Statement.item]

@[simp] theorem reading_list (statement : Statement) (items : List String) (separator : String) :
    (statement.list items separator).reading read =
      statement.reading read ++
        (separated separator items).flatMap fun item => read item.toList := by
  simp [Statement.reading, Statement.list, List.flatMap_map]

theorem toList_line (fragment : Fragment) :
    fragment.line.toList =
      List.replicate (fragment.depth + 1) ' ' ++ (fragment.text.toList ++ [' ']) := by
  simp [Fragment.line]

theorem read_indented (ignores : IgnoresBlanks read) (depth : Nat) (text : List Char) :
    read (List.replicate depth ' ' ++ text) = read text := by
  induction depth with
  | zero => rfl
  | succ depth ih =>
    rw [List.replicate_succ, List.cons_append, ignores.blank_cons ' ' _ isBlank_space, ih]

/-- Indentation and the closing space of a line are not read. -/
theorem read_line (ignores : IgnoresBlanks read) (fragment : Fragment) :
    read fragment.line.toList = read fragment.text.toList := by
  rw [toList_line, read_indented ignores, ignores.blank_end _ ' ' isBlank_space]

theorem flatMap_read_lines (ignores : IgnoresBlanks read) (statement : Statement) :
    ((statement.fragments.map (·.line)).map String.toList).flatMap read =
      statement.reading read := by
  rw [List.map_map, List.flatMap_map]
  exact congrArg (List.flatMap · statement.fragments)
    (funext fun fragment => read_line ignores fragment)

/-- The text of the canonical line before it is normalized. -/
theorem read_spaced (ignores : IgnoresBlanks read) (statement : Statement) :
    read (" ".intercalate (statement.fragments.map (·.text))).toList = statement.reading read := by
  have space : " ".toList = [' '] := rfl
  rw [String.toList_intercalate, space, ignores.intercalate ' ' isBlank_space, List.map_map,
    List.flatMap_map]
  rfl

theorem isBlank_newline : isBlank '\n' = true := by decide

/-- Under both strategies the raw text reads as the fragments do. -/
theorem read_write (ignores : IgnoresBlanks read) (strategy : RenderStrategy)
    (statement : Statement) :
    read (strategy.write statement).text.toList = statement.reading read := by
  rw [← flatMap_read_lines ignores]
  cases strategy with
  | incrementalAppend =>
    have closed : ∀ line ∈ (statement.fragments.map (·.line)).map String.toList,
        ∃ text c, isBlank c = true ∧ line = text ++ [c] := by
      intro line member
      rw [List.map_map] at member
      obtain ⟨fragment, -, rfl⟩ := List.mem_map.1 member
      refine ⟨List.replicate (fragment.depth + 1) ' ' ++ fragment.text.toList, ' ',
        isBlank_space, ?_⟩
      rw [Function.comp_apply, toList_line, List.append_assoc]
    rw [← ignores.flatten_of_closed _ closed]
    simp only [RenderStrategy.write, appendQuery, String.toList_join, List.flatMap_def]
  | literalBlock =>
    have newline : "\n".toList = ['\n'] := rfl
    simp only [RenderStrategy.write, literalQuery, String.toList_append,
      String.toList_intercalate, newline, List.singleton_append]
    rw [List.cons_append, ignores.blank_cons '\n' _ isBlank_newline,
      ignores.blank_end _ '\n' isBlank_newline, ignores.intercalate '\n' isBlank_newline]

/-- The canonical text reads as the fragments do. -/
theorem read_sql (ignores : IgnoresLayout read) (statement : Statement) :
    read statement.sql.toList = statement.reading read := by
  rw [Statement.sql, ignores.normalize, read_spaced ignores.toIgnoresBlanks]

/-- Separators that are not read leave the items one by one. -/
theorem flatMap_separated (separator : String)
    (silent : ∀ item : String, read (item ++ separator).toList = read item.toList)
    (items : List String) :
    ((separated separator items).flatMap fun item => read item.toList) =
      items.flatMap fun item => read item.toList := by
  induction items using separated.induct with
  | case1 => rfl
  | case2 last => rfl
  | case3 item next rest ih =>
    rw [separated, List.flatMap_cons, silent, ih]
    rfl

end Statements

theorem comma_space : ", " = "," ++ " " := rfl

theorem space_and : " and" = " " ++ "and" := rfl

/-- A reading for which punctuation is a border too. -/
structure IgnoresPunctuation {α : Type} (read : List Char → List α) : Prop
    extends IgnoresBlanks read where
  punctuation : ∀ before after c, c ∈ ['(', ')', ','] →
    read (before ++ c :: after) = read before ++ read after

namespace IgnoresPunctuation

variable {α : Type} {read : List Char → List α}

theorem ignoresLayout (ignores : IgnoresPunctuation read) : IgnoresLayout read where
  toIgnoresBlanks := ignores.toIgnoresBlanks
  opening before after := by
    rw [ignores.punctuation before after '(' (by simp), ignores.punctuation before [] '(' (by simp),
      ignores.nil, List.append_nil]
  closing before after := by
    have alone := ignores.punctuation [] after ')' (by simp)
    rw [ignores.nil, List.nil_append, List.nil_append] at alone
    rw [ignores.punctuation before after ')' (by simp), alone]

theorem space (ignores : IgnoresPunctuation read) (first second : String) :
    read (first ++ " " ++ second).toList = read first.toList ++ read second.toList := by
  have chars : (first ++ " " ++ second).toList = first.toList ++ ' ' :: second.toList := by simp
  rw [chars, ignores.blank _ _ ' ' isBlank_space]

theorem comma (ignores : IgnoresPunctuation read) (text : String) :
    read (text ++ ",").toList = read text.toList := by
  have chars : (text ++ ",").toList = text.toList ++ ',' :: [] := by simp
  rw [chars, ignores.punctuation _ _ ',' (by simp), ignores.nil, List.append_nil]

/-- What stands in parentheses behind a name. -/
theorem call (ignores : IgnoresPunctuation read) (name text : String) :
    read (name ++ "(" ++ text ++ ")").toList = read name.toList ++ read text.toList := by
  have chars : (name ++ "(" ++ text ++ ")").toList =
      name.toList ++ '(' :: (text.toList ++ ')' :: []) := by simp
  rw [chars, ignores.punctuation _ _ '(' (by simp), ignores.punctuation _ _ ')' (by simp),
    ignores.nil, List.append_nil]

theorem enclosed (ignores : IgnoresPunctuation read) (text : String) :
    read ("(" ++ text ++ ")").toList = read text.toList := by
  have called := ignores.call "" text
  rwa [String.empty_append, String.toList_empty, ignores.nil, List.nil_append] at called

theorem commas (ignores : IgnoresPunctuation read) (items : List String) :
    read (", ".intercalate items).toList = items.flatMap fun item => read item.toList := by
  induction items with
  | nil => exact ignores.nil
  | cons item rest ih =>
    cases rest with
    | nil => simp
    | cons next rest =>
      rw [String.intercalate_cons_cons, comma_space, ← String.append_assoc, ignores.space,
        ignores.comma, ← comma_space, ih]
      rfl

/-- Items with a comma behind each but the last. -/
theorem separated_comma (ignores : IgnoresPunctuation read) (items : List String) :
    ((separated "," items).flatMap fun item => read item.toList) =
      items.flatMap fun item => read item.toList :=
  flatMap_separated "," ignores.comma items

end IgnoresPunctuation

/-- The normal form of a text depends on its words only. -/
theorem normalize_congr (first second : String)
    (same : words first.toList = words second.toList) : normalize first = normalize second := by
  rw [normalize, normalize, normalizeChars, normalizeChars, same]

/-- Normalizing the raw text of either strategy gives the canonical text. -/
theorem normalized_write (strategy : RenderStrategy) (statement : Statement) :
    (strategy.write statement).normalized = statement.sql := by
  apply normalize_congr
  rw [read_write IgnoresBlanks.words, read_spaced IgnoresBlanks.words]

/-- The texts of the two strategies differ in white space only, and so does the canonical text. -/
theorem strategies_agree (statement : Statement) :
    (appendQuery statement).normalized = (literalQuery statement).normalized ∧
      (literalQuery statement).normalized = statement.sql := by
  have appended : (appendQuery statement).normalized = statement.sql :=
    normalized_write .incrementalAppend statement
  have literal : (literalQuery statement).normalized = statement.sql :=
    normalized_write .literalBlock statement
  exact ⟨appended.trans literal.symm, literal⟩

end DataAccess.Sql

import DataAccess.Method.Rendering
import DataAccess.Proofs.Sql.Layout

/-!
The wording of fragments. Each is a sequence of words with spaces between them, possibly in
parentheses, and is read word by word.
-/
set_option autoImplicit false

namespace DataAccess

open Sql

/-- The fixed words of statements under any dialect that stand between spaces. -/
def spacedWords : List String :=
  ["select", "from", "where", "=", "is null or", "and", "order by", "offset", "*", "-", "1", "rows",
    "fetch next", "rows only", "insert into", "default values", "values", "update", "set",
    "delete from", "scope_identity", "returning", "into"]

/-- The fixed words as they stand in fragments. The only other one is the system variable
`@@identity`. -/
def fixedWords : List String :=
  "(" :: ")" :: spacedWords

namespace Conventions

variable (conventions : Conventions)

theorem assignment_eq (column : Column) :
    conventions.assignment column =
      column.name ++ " " ++ "=" ++ " " ++ conventions.columnMarker column := by
  simp [assignment, ← String.toList_inj]

theorem filterTerm_eq (filter : Filter) :
    conventions.filterTerm filter =
      "(" ++ (conventions.dialect.marker filter.marker ++ " " ++ "is null or" ++ " " ++
        filter.column.name ++ " " ++ "=" ++ " " ++ conventions.dialect.marker filter.marker) ++
      ")" := by
  simp [filterTerm, ← String.toList_inj]

end Conventions

theorem offset_eq (size number : String) :
    "offset " ++ size ++ " * (" ++ number ++ " - 1) rows" =
      "offset" ++ " " ++ size ++ " " ++ "*" ++ " " ++
        ("(" ++ (number ++ " " ++ "-" ++ " " ++ "1") ++ ")") ++ " " ++ "rows" := by
  simp [← String.toList_inj]

theorem fetch_eq (size : String) :
    "fetch next " ++ size ++ " rows only" =
      "fetch next" ++ " " ++ size ++ " " ++ "rows only" := by
  simp [← String.toList_inj]

theorem identityClause_known (known : KnownDialect) (column marker : String) :
    known.dialect.identityClause column marker =
      match known with
      | .sqlServer => "select" ++ " " ++ marker ++ " " ++ "=" ++ " " ++ "@@identity"
      | .sqlServerScoped =>
        "select" ++ " " ++ marker ++ " " ++ "=" ++ " " ++ "scope_identity" ++ "(" ++ "" ++ ")"
      | .oracle => "returning" ++ " " ++ column ++ " " ++ "into" ++ " " ++ marker := by
  cases known <;> simp [KnownDialect.dialect, ← String.toList_inj]

section Reading

variable {α : Type} {read : List Char → List α}

theorem read_assignment (ignores : IgnoresPunctuation read) (conventions : Conventions)
    (column : Column) :
    read (conventions.assignment column).toList =
      read column.name.toList ++ read "=".toList ++
        read (conventions.columnMarker column).toList := by
  rw [Conventions.assignment_eq, ignores.space, ignores.space]

theorem read_filterTerm (ignores : IgnoresPunctuation read) (conventions : Conventions)
    (filter : Filter) :
    read (conventions.filterTerm filter).toList =
      read (conventions.dialect.marker filter.marker).toList ++ read "is null or".toList ++
        read filter.column.name.toList ++ read "=".toList ++
        read (conventions.dialect.marker filter.marker).toList := by
  rw [Conventions.filterTerm_eq, ignores.enclosed, ignores.space, ignores.space, ignores.space,
    ignores.space]

theorem read_offset (ignores : IgnoresPunctuation read) (size number : String) :
    read ("offset " ++ size ++ " * (" ++ number ++ " - 1) rows").toList =
      read "offset".toList ++ read size.toList ++ read "*".toList ++
        (read number.toList ++ read "-".toList ++ read "1".toList) ++ read "rows".toList := by
  rw [offset_eq, ignores.space, ignores.space, ignores.space, ignores.space, ignores.enclosed,
    ignores.space, ignores.space]

theorem read_fetch (ignores : IgnoresPunctuation read) (size : String) :
    read ("fetch next " ++ size ++ " rows only").toList =
      read "fetch next".toList ++ read size.toList ++ read "rows only".toList := by
  rw [fetch_eq, ignores.space, ignores.space]

/-- What the clause that reads an identity back is read as. -/
def identityReading (read : List Char → List α) (known : KnownDialect) (column marker : String) :
    List α :=
  match known with
  | .sqlServer =>
    read "select".toList ++ read marker.toList ++ read "=".toList ++ read "@@identity".toList
  | .sqlServerScoped =>
    read "select".toList ++ read marker.toList ++ read "=".toList ++ read "scope_identity".toList
  | .oracle =>
    read "returning".toList ++ read column.toList ++ read "into".toList ++ read marker.toList

theorem read_identityClause (ignores : IgnoresPunctuation read) (known : KnownDialect)
    (column marker : String) :
    read (known.dialect.identityClause column marker).toList =
      identityReading read known column marker := by
  rw [identityClause_known]
  cases known with
  | sqlServer => simp only [identityReading, ignores.space]
  | sqlServerScoped =>
    simp only [identityReading, ignores.call, ignores.space, String.toList_empty, ignores.nil,
      List.append_nil]
  | oracle => simp only [identityReading, ignores.space]

/-- The start of every query. -/
theorem read_projection (ignores : IgnoresPunctuation read) (relation : Relation) :
    (projection relation).reading read =
      read "select".toList ++ (relation.columns.flatMap fun column => read column.name.toList) ++
        read "from".toList := by
  simp [projection, ignores.separated_comma, List.flatMap_map]

end Reading

end DataAccess

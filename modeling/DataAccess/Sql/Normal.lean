import DataAccess.Text.Blank

/-!
The normal form of statement text: words separated by single spaces, no space after an opening
or before a closing parenthesis.
-/
set_option autoImplicit false

namespace DataAccess.Sql

open Text

/-- Drops one space after each opening parenthesis. -/
def tightenOpen : List Char → List Char
  | [] => []
  | '(' :: ' ' :: rest => '(' :: tightenOpen rest
  | c :: rest => c :: tightenOpen rest

/-- Drops one space before each closing parenthesis. -/
def tightenClose : List Char → List Char
  | [] => []
  | ' ' :: ')' :: rest => ')' :: tightenClose rest
  | c :: rest => c :: tightenClose rest

def normalizeChars (text : List Char) : List Char :=
  tightenClose (tightenOpen ([' '].intercalate (words text)))

/-- The normal form of a text. -/
def normalize (text : String) : String :=
  String.ofList (normalizeChars text.toList)

end DataAccess.Sql

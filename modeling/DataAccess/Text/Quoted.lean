import DataAccess.Text.ClusterTable
import DataAccess.Text.Digits
import DataAccess.Text.Printable

/-!
String literals. Between double quotes stand the characters of a text; a quote, a backslash and
the common controls are written with a backslash, and every other character that would not show
as itself is written as its code point in hexadecimal.
-/
set_option autoImplicit false

namespace DataAccess.Text

/-- The halfwidth sound marks of Katakana, which extend a cluster but show on their own. -/
def soundMarkRanges : List (Nat × Nat) := [(0xFF9E, 0xFF9F)]

/-- Whether a character is written as its code point. A combining mark is, so that it does not
merge with the character before it. -/
def needsCode (c : Char) : Bool :=
  (inRanges extendRanges c.toNat && !inRanges soundMarkRanges c.toNat) || !isPrintable c

/-- One character as it stands in a literal. -/
def escapeChar (c : Char) : List Char :=
  if c = '\x00' then ['\\', '0']
  else if c = '\t' then ['\\', 't']
  else if c = '\r' then ['\\', 'r']
  else if c = '\n' then ['\\', 'n']
  else if c = '"' || c = '\\' then ['\\', c]
  else if needsCode c then codeEscape c
  else [c]

/-- A text as a string literal. -/
def quoted (text : String) : String :=
  String.ofList ('"' :: text.toList.flatMap escapeChar ++ ['"'])

/-- A list of texts as literals between brackets. -/
def quotedList (texts : List String) : String :=
  "[" ++ ", ".intercalate (texts.map quoted) ++ "]"

end DataAccess.Text

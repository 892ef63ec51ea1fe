import DataAccess.Distinct
import DataAccess.Text.Alphanumeric

/-!
Named placeholders in statement text. A placeholder is a sigil followed by an identifier; a
doubled sigil, as in `@@identity`, opens a system variable, which is no placeholder.
-/
set_option autoImplicit false

namespace DataAccess.Sql

open Text

/-- What a scan of statement text is inside of. -/
inductive MarkerScan where
  | text
  | opened
  | system
  | name (read : List Char)

/-- The placeholder names from a state of the scan on. -/
def scanMarkers (sigil : Char) : MarkerScan → List Char → List (List Char)
  | .name read, [] => [read]
  | _, [] => []
  | .text, c :: rest =>
    scanMarkers sigil (if c = sigil then .opened else .text) rest
  | .opened, c :: rest =>
    scanMarkers sigil
      (if c = sigil then .system else if isIdentChar c then .name [c] else .text) rest
  | .system, c :: rest =>
    scanMarkers sigil
      (if isIdentChar c then .system else if c = sigil then .opened else .text) rest
  | .name read, c :: rest =>
    if isIdentChar c then scanMarkers sigil (.name (read ++ [c])) rest
    else read :: scanMarkers sigil (if c = sigil then .opened else .text) rest

/-- Every placeholder of a text in order, without the sigil. -/
def markerOccurrences (text : String) (sigil : Char) : List String :=
  (scanMarkers sigil .text text.toList).map String.ofList

/-- The placeholders of a text in the order in which each first occurs. -/
def placeholders (text : String) (sigil : Char) : List String :=
  distinct (markerOccurrences text sigil)

end DataAccess.Sql

import DataAccess.Sql.Normal

/-!
Statements as sequences of fragments, one for each line. Clause keywords stand at depth 0 and
the items under them at depth 1; the canonical text of a statement is the normal form of its
fragments in order.
-/
set_option autoImplicit false

namespace DataAccess.Sql

/-- One logical line of a statement. -/
structure Fragment where
  depth : Nat
  text : String
deriving DecidableEq

/-- The line as generated code holds it: indented, and closed by a space. -/
def Fragment.line (fragment : Fragment) : String :=
  String.ofList (List.replicate (fragment.depth + 1) ' ') ++ fragment.text ++ " "

structure Statement where
  fragments : List Fragment := []
deriving DecidableEq

/-- Each item but the last is followed by the separator. -/
def separated (separator : String) : List String → List String
  | [] => []
  | [last] => [last]
  | item :: next :: rest => (item ++ separator) :: separated separator (next :: rest)

namespace Statement

/-- Appends a clause keyword. -/
def keyword (statement : Statement) (text : String) : Statement :=
  ⟨statement.fragments ++ [⟨0, text⟩]⟩

/-- Appends one item. -/
def item (statement : Statement) (text : String) : Statement :=
  ⟨statement.fragments ++ [⟨1, text⟩]⟩

/-- Appends items with a separator after all but the last. -/
def list (statement : Statement) (items : List String) (separator : String) : Statement :=
  ⟨statement.fragments ++ (separated separator items).map (⟨1, ·⟩)⟩

/-- The canonical text on one line. -/
def sql (statement : Statement) : String :=
  normalize (" ".intercalate (statement.fragments.map (·.text)))

end Statement

end DataAccess.Sql

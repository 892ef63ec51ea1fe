/-!
What differs between database systems: the sigil of a placeholder and the clause that reads a
generated identity back after an insert.
-/
set_option autoImplicit false

namespace DataAccess.Sql

structure Dialect where
  /-- The character before a placeholder name. -/
  sigil : Char
  /-- The clause that stores the identity of `column` into the placeholder `marker`, which is
  given with its sigil. -/
  identityClause : (column marker : String) → String
  /-- A placeholder with its sigil. -/
  marker : (name : String) → String := fun name => String.singleton sigil ++ name

inductive KnownDialect where
  | sqlServer
  | sqlServerScoped
  | oracle
deriving DecidableEq

instance : Inhabited KnownDialect := ⟨.sqlServer⟩

namespace KnownDialect

def name : KnownDialect → String
  | sqlServer => "sqlserver"
  | sqlServerScoped => "sqlserver-scoped"
  | oracle => "oracle"

/-- The names a dialect can be asked for by. -/
def names : List (String × KnownDialect) :=
  [("sqlserver", sqlServer), ("mssql", sqlServer), ("sqlserver-scoped", sqlServerScoped),
    ("oracle", oracle)]

def dialect : KnownDialect → Dialect
  | sqlServer => {
      sigil := '@'
      identityClause := fun _ marker => "select " ++ marker ++ " = @@identity" }
  | sqlServerScoped => {
      sigil := '@'
      identityClause := fun _ marker => "select " ++ marker ++ " = scope_identity()" }
  | oracle => {
      sigil := ':'
      identityClause := fun column marker => "returning " ++ column ++ " into " ++ marker }

end KnownDialect

end DataAccess.Sql

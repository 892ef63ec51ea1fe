import DataAccess.Text.Quoted

/-!
Why a schema, settings or a method is refused, and how each refusal is reported.
-/
set_option autoImplicit false

namespace DataAccess

/-- Why a file could not be read. -/
inductive FileError where
  | missing
  | isDirectory
  | notDirectory
  | nameTooLong
  | zeroInName
  | other (reason : String)
deriving DecidableEq

def FileError.message : FileError → String
  | missing => "No such file or directory (os error 2)"
  | isDirectory => "Is a directory (os error 21)"
  | notDirectory => "Not a directory (os error 20)"
  | nameTooLong => "File name too long (os error 36)"
  | zeroInName => "file name contained an unexpected NUL byte"
  | other reason => reason

inductive Error where
  /-- No type is known for a column or parameter. -/
  | unresolvedType (relation column declared : String)
  | unknownColumn (relation column : String)
  | emptyConstraint (relation constraint : String)
  /-- A name that must not stand in statement text. -/
  | invalidIdentifier (text : String)
  /-- The placeholders of a statement are not its bindings. -/
  | bindingMismatch (method : String) (placeholders bindings : List String)
  | noColumns (relation : String)
  | notTable (relation : String)
  | noKeys (relation : String)
  | noOrderColumn (table : String)
  | malformedSchema
  | malformedSettings
  | unreadableSettings (path : String) (reason : FileError)
  | unreadableSchema (reason : FileError)
deriving DecidableEq

def Error.message : Error → String
  | unresolvedType relation column declared =>
    "Unresolvable type '" ++ declared ++ "' for '" ++ column ++ "' in " ++ relation
  | unknownColumn relation column => "Unknown column '" ++ column ++ "' in " ++ relation
  | emptyConstraint relation constraint =>
    "Constraint '" ++ constraint ++ "' in " ++ relation ++ " has no columns"
  | invalidIdentifier text => "Invalid identifier: '" ++ text ++ "'"
  | bindingMismatch method placeholders bindings =>
    "Binding mismatch in " ++ method ++ ": statement uses " ++ Text.quotedList placeholders ++
      ", bindings are " ++ Text.quotedList bindings
  | noColumns relation => "Schema error: " ++ relation ++ " has no columns"
  | notTable relation =>
    "Schema error: " ++ relation ++ " is not a table and only supports read-all"
  | noKeys relation => "Schema error: " ++ relation ++ " has no keys"
  | noOrderColumn table => "Schema error: " ++ table ++ " has no columns to order by"
  | malformedSchema => "Schema error: <parse error>"
  | malformedSettings => "Configuration error: <parse error>"
  | unreadableSettings path reason =>
    "Configuration error: Failed to read " ++ path ++ ": " ++ reason.message
  | unreadableSchema reason => "IO error: " ++ reason.message

end DataAccess

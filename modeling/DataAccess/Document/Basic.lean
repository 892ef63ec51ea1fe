/-!
Documents: trees of texts, flags and numbers in lists and records, as the notations for schemas
and settings write them. A structure is read from a record by the names of its fields or from a
list by their order; what has no place in it is passed over.
-/
set_option autoImplicit false

namespace DataAccess

/-- The notations a document may be written in. -/
inductive DocumentFormat where
  | json
  | toml
deriving DecidableEq

inductive Document where
  | null
  | flag (value : Bool)
  | number (literal : String)
  | text (value : String)
  | list (items : List Document)
  /-- Entries in the order they are written in; a key may stand more than once. -/
  | record (entries : List (String × Document))
  /-- A value that may be passed over but not read, such as a text with half a character. -/
  | unreadable

/-- The known fields of a structure that is being read. -/
abbrev Fields := List (String × Document)

/-- The names of the fields of a structure, in order. -/
structure Layout where
  names : List String
  /-- Other names of fields, each with the name proper. -/
  aliases : List (String × String) := []

def Layout.properName (layout : Layout) (key : String) : String :=
  (layout.aliases.lookup key).getD key

namespace Document

def ofOption {α : Type} (write : α → Document) : Option α → Document
  | some value => write value
  | none => null

def texts (values : List String) : Document :=
  list (values.map text)

def text? : Document → Option String
  | text value => some value
  | _ => none

def flag? : Document → Option Bool
  | flag value => some value
  | _ => none

/-- A list whose items can all be read. -/
def listOf? {α : Type} (read : Document → Option α) : Document → Option (List α)
  | list items => items.mapM read
  | _ => none

def texts? : Document → Option (List String) :=
  listOf? text?

/-- A value, or null for none. -/
def orNull? {α : Type} (read : Document → Option α) : Document → Option (Option α)
  | null => some none
  | document => (read document).map some

/-- The fields of a structure. A field that is given twice is a fault. An item for which there
is no field is a fault in JSON, and in TOML has no place. -/
def fields? (format : DocumentFormat) (layout : Layout) : Document → Option Fields
  | record entries =>
    let known := (entries.map fun entry => (layout.properName entry.1, entry.2)).filter
      fun entry => layout.names.contains entry.1
    if (known.map (·.1)).Nodup then some known else none
  | list items =>
    if format = .toml || items.length ≤ layout.names.length then some (layout.names.zip items)
    else none
  | _ => none

/-- What a choice that is written as a record has for its value. -/
def isUnit (format : DocumentFormat) : Document → Bool
  | null => format = .json
  | list [] | record [] => format = .toml
  | _ => false

/-- One of several choices, written as its name or as a record of the name and no value. -/
def choice? {α : Type} (format : DocumentFormat) (choices : List (String × α)) :
    Document → Option α
  | text name => choices.lookup name
  | record [(name, value)] => if value.isUnit format then choices.lookup name else none
  | _ => none

end Document

namespace Fields

variable {α : Type}

def required (fields : Fields) (name : String) (read : Document → Option α) : Option α := do
  read (← fields.lookup name)

/-- The value of a field that may be missing. -/
def defaulted (fields : Fields) (name : String) (read : Document → Option α) (default : α) :
    Option α :=
  match fields.lookup name with
  | some value => read value
  | none => some default

/-- The value of a field that may be missing or null. -/
def optional (fields : Fields) (name : String) (read : Document → Option α) :
    Option (Option α) :=
  fields.defaulted name (Document.orNull? read) none

end Fields

end DataAccess

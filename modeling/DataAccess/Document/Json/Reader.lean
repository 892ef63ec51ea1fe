import DataAccess.Document.Json.Token

/-!
Documents from JSON tokens. The reader keeps the lists and records that are open around it on a
stack of its own, so a document may nest to any depth.
-/
set_option autoImplicit false

namespace DataAccess.Json

/-- An entry whose key is none has a key that is no text. -/
abbrev KeyedItem := Option String × Document

/-- A list or record that is open, with what it holds so far in reverse. -/
inductive Frame where
  | list (read : List Document)
  /-- A record that waits for the value of a key. -/
  | entry (read : List KeyedItem) (key : Option String)

/-- What may come next, inside of the open lists and records. -/
inductive Reading where
  | value (around : List Frame)
  | itemOrEnd (around : List Frame)
  | keyOrEnd (around : List Frame)
  | key (read : List KeyedItem) (around : List Frame)
  | colon (key : Option String) (read : List KeyedItem) (around : List Frame)
  /-- A value has been read; a comma or the end of what is around it follows. -/
  | complete (value : Document) (around : List Frame)

/-- A record cannot be read if one of its keys cannot. -/
def recordOf (entries : List KeyedItem) : Document :=
  match entries.mapM fun entry => entry.1.map fun key => (key, entry.2) with
  | some entries => .record entries
  | none => .unreadable

namespace Reading

def open? (token : Token) (around : List Frame) : Option Reading :=
  match token with
  | .scalar document => some (complete document around)
  | .text (some characters) => some (complete (.text characters) around)
  | .text none => some (complete .unreadable around)
  | .openList => some (itemOrEnd around)
  | .openRecord => some (keyOrEnd around)
  | _ => none

def step? (reading : Reading) (token : Token) : Option Reading :=
  match reading, token with
  | value around, token => open? token around
  | itemOrEnd around, .closeList => some (complete (.list []) around)
  | itemOrEnd around, token => open? token (.list [] :: around)
  | keyOrEnd around, .closeRecord => some (complete (.record []) around)
  | keyOrEnd around, .text name => some (colon name [] around)
  | key read around, .text name => some (colon name read around)
  | colon name read around, .colon => some (value (.entry read name :: around))
  | complete item (.list read :: around), .comma => some (value (.list (item :: read) :: around))
  | complete item (.list read :: around), .closeList =>
    some (complete (.list (item :: read).reverse) around)
  | complete item (.entry read name :: around), .comma => some (key ((name, item) :: read) around)
  | complete item (.entry read name :: around), .closeRecord =>
    some (complete (recordOf ((name, item) :: read).reverse) around)
  | _, _ => none

end Reading

/-- Reads a text that is one document. -/
def read? (text : String) : Option Document := do
  let reading ← (← tokens? text).foldlM Reading.step? (.value [])
  match reading with
  | .complete document [] => some document
  | _ => none

end DataAccess.Json

import DataAccess.Document.Basic

/-!
TOML tables under construction. A table is opened once by a header or grows by dotted keys; a
header may also open a table that so far is only implied by headers of tables below it. Every
change either keeps what is there or is refused.
-/
set_option autoImplicit false

namespace DataAccess.Toml

/-- How a table came to be. -/
inductive Origin where
  | header
  /-- By a header of a table below it. -/
  | implied
  | dotted
deriving DecidableEq

inductive Node where
  | value (value : Document)
  | table (origin : Origin) (entries : List (String × Node))
  /-- An array of tables, of which the last one can still grow. -/
  | rows (last : List (String × Node)) (before : List (List (String × Node)))

abbrev Entries := List (String × Node)

/-- Changes the entry of a key, or makes one. -/
def alter (key : String) (change : Option Node → Option Node) : Entries → Option Entries
  | [] => (change none).map fun node => [(key, node)]
  | entry :: rest =>
    if entry.1 = key then (change (some entry.2)).map fun node => (key, node) :: rest
    else (alter key change rest).map (entry :: ·)

/-- Changes the table at a path of header keys; tables that are missing on the way are implied,
and of an array of tables the last is meant. -/
def within (change : Entries → Option Entries) : List String → Entries → Option Entries
  | [], entries => change entries
  | key :: path, entries =>
    alter key (fun
      | none => (within change path []).map (.table .implied)
      | some (.table origin inner) => (within change path inner).map (.table origin)
      | some (.rows last before) => (within change path last).map (.rows · before)
      | some (.value _) => none) entries

/-- Opens the table of a header. -/
def openTable : List String → Entries → Option Entries
  | [], _ => none
  | [key], entries =>
    alter key (fun
      | none => some (.table .header [])
      | some (.table .implied inner) => some (.table .header inner)
      | some _ => none) entries
  | key :: next :: path, entries => within (openTable (next :: path)) [key] entries

/-- Opens one more table of an array of tables. -/
def openRow : List String → Entries → Option Entries
  | [], _ => none
  | [key], entries =>
    alter key (fun
      | none => some (.rows [] [])
      | some (.rows last before) => some (.rows [] (before ++ [last]))
      | some _ => none) entries
  | key :: next :: path, entries => within (openRow (next :: path)) [key] entries

/-- Puts a value under a dotted key. The key makes tables, and adds to tables made by dotted
keys; through tables that are there for another reason it only passes. -/
def assign (value : Document) : List String → Entries → Option Entries
  | [], _ => none
  | [key], entries =>
    alter key (fun
      | none => some (.value value)
      | some _ => none) entries
  | key :: next :: path, entries =>
    alter key (fun
      | none => (assign value (next :: path) []).map (.table .dotted)
      | some (.table .dotted inner) => (assign value (next :: path) inner).map (.table .dotted)
      | some (.table .implied inner) =>
        if path.isEmpty then none
        else (assign value (next :: path) inner).map (.table .implied)
      | some (.rows last before) =>
        if path.isEmpty then none
        else (assign value (next :: path) last).map (.rows · before)
      | some (.table .header _) | some (.value _) => none) entries

mutual

def Node.document : Node → Document
  | .value value => value
  | .table _ entries => .record (entryDocuments entries)
  | .rows last before => .list (rowDocuments before ++ [.record (entryDocuments last)])

def entryDocuments : List (String × Node) → List (String × Document)
  | [] => []
  | (key, node) :: rest => (key, node.document) :: entryDocuments rest

def rowDocuments : List (List (String × Node)) → List Document
  | [] => []
  | row :: rest => .record (entryDocuments row) :: rowDocuments rest

end

end DataAccess.Toml

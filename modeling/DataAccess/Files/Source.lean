import DataAccess.Document.Json.Reader
import DataAccess.Document.Toml.Reader
import DataAccess.Files.Tree
import DataAccess.Journal.Event
import DataAccess.Schema.Document
import DataAccess.Settings.Document

/-!
Schemas and settings from files. Settings come from the file that is asked for, or else from the
one in the working directory, or else from the user's own, or else are the defaults. A schema is
JSON if the extension of its file says so, and TOML otherwise.
-/
set_option autoImplicit false

namespace DataAccess

/-- The settings in the working directory. -/
def localSettings : String := "crudgen.toml"

/-- The file that settings are read from, if there is one. -/
def Files.settingsPath? (files : Files) (explicit : Option String) : Option String :=
  explicit.or ((localSettings :: files.userSettings.toList).find? files.isFile)

namespace Settings

def ofFile (files : Files) (path : String) : Except Error Settings :=
  match files.read path with
  | .ok content => load .toml (Toml.read? content)
  | .error reason => .error (.unreadableSettings path reason)

/-- The settings that apply, possibly from a file that is asked for. -/
def find (files : Files) (explicit : Option String) : Except Error Settings :=
  match files.settingsPath? explicit with
  | some path => ofFile files path
  | none => .ok {}

/-- The events of finding the settings. -/
def findEvents (files : Files) (explicit : Option String) : List Event :=
  match files.settingsPath? explicit with
  | some path =>
    (ofFile files path).toOption.toList.map fun _ =>
      ⟨.info, "crudgen::settings", "Loaded settings from " ++ path⟩
  | none => [⟨.debug, "crudgen::settings", "No config file found, using defaults"⟩]

end Settings

/-- The name of the file that a path leads to. Empty parts of a path and single dots do not
count; two dots are no name. -/
def fileName? (path : String) : Option (List Char) :=
  let parts := (Text.pieces (· == '/') path.toList).filter fun part => part != [] && part != ['.']
  parts.getLast?.filter (· != ['.', '.'])

/-- What follows the last dot of a file name, unless nothing is before it. -/
def extension? (path : String) : Option (List Char) := do
  let pieces := Text.pieces (· == '.') (← fileName? path)
  if 2 ≤ pieces.length && pieces != [[], pieces.getLastD []] then pieces.getLast? else none

namespace Schema

def formatOf (path : String) : DocumentFormat :=
  if extension? path = some ['j', 's', 'o', 'n'] then .json else .toml

def ofText (format : DocumentFormat) (content : String) : Except Error Schema :=
  load format <| match format with
    | .json => Json.read? content
    | .toml => Toml.read? content

def ofFile (files : Files) (path : String) : Except Error Schema :=
  match files.read path with
  | .ok content => ofText (formatOf path) content
  | .error reason => .error (.unreadableSchema reason)

/-- The event of having read a schema. -/
def loaded (schema : Schema) (path : String) : Event :=
  ⟨.info, "crudgen::schema",
    "Loaded schema from " ++ path ++ " (" ++ toString schema.tables.length ++ " tables, " ++
      toString schema.views.length ++ " views, " ++ toString schema.functions.length ++
      " functions)"⟩

/-- The events of reading a schema from a file. -/
def fileEvents (files : Files) (path : String) : List Event :=
  (ofFile files path).toOption.toList.map (·.loaded path)

end Schema

end DataAccess

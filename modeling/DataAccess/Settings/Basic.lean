import DataAccess.Schema.Relation
import DataAccess.Settings.Overrides
import DataAccess.Sql.Dialect

/-!
Project settings: the dialect, how statements are built, and what each relation changes of that.
An override under the full name of a relation hides one under its plain name.
-/
set_option autoImplicit false

namespace DataAccess

open Sql

/-- What applies to one relation. -/
structure GenerationSettings where
  renderStrategy : RenderStrategy := .literalBlock
  /-- Whether reading all rows of a table takes a page size and number. -/
  paging : Bool := false
deriving DecidableEq

/-- The settings with what an override sets. -/
def GenerationSettings.override (settings : GenerationSettings) (changes : RelationOverride) :
    GenerationSettings where
  renderStrategy := changes.renderStrategy.getD settings.renderStrategy
  paging := changes.paging.getD settings.paging

structure Settings where
  dialect : KnownDialect := .sqlServer
  defaults : GenerationSettings := {}
  /-- Keyed by plain or full relation name. -/
  relations : Overrides := .empty
  /-- Columns that an insert never writes. -/
  insertExclusions : List String := []
  /-- Columns that an update never writes. -/
  updateExclusions : List String := []
deriving DecidableEq

namespace Settings

/-- The override for a relation, under its full name first. -/
def override? (settings : Settings) (relation : Relation) : Option RelationOverride :=
  (settings.relations.find? relation.fullName).or (settings.relations.find? relation.name)

def forRelation (settings : Settings) (relation : Relation) : GenerationSettings :=
  match settings.override? relation with
  | some changes => settings.defaults.override changes
  | none => settings.defaults

end Settings

/-- One step in the making of settings. -/
inductive SettingsStep where
  | dialect (dialect : KnownDialect)
  | renderStrategy (strategy : RenderStrategy)
  | paging (paging : Bool)
  | relation (name : String) (changes : RelationOverride)
  | excludeFromInsert (column : String)
  | excludeFromUpdate (column : String)
deriving DecidableEq

namespace Settings

def apply (settings : Settings) : SettingsStep → Settings
  | .dialect dialect => { settings with dialect }
  | .renderStrategy strategy =>
    { settings with defaults := { settings.defaults with renderStrategy := strategy } }
  | .paging paging => { settings with defaults := { settings.defaults with paging } }
  | .relation name changes =>
    { settings with relations := settings.relations.insert name changes }
  | .excludeFromInsert column =>
    { settings with insertExclusions := settings.insertExclusions ++ [column] }
  | .excludeFromUpdate column =>
    { settings with updateExclusions := settings.updateExclusions ++ [column] }

def build (steps : List SettingsStep) : Settings :=
  steps.foldl apply {}

end Settings

end DataAccess

import DataAccess.Document.Basic
import DataAccess.Error
import DataAccess.Settings.Basic

/-!
Settings as documents. Every field may be missing, and an override may leave a field unset.
-/
set_option autoImplicit false

namespace DataAccess

open Document (ofOption text texts record flag texts? flag? choice?)
open Sql

def generationLayout : Layout where
  names := ["render-strategy", "paging"]

def GenerationSettings.document (settings : GenerationSettings) : Document :=
  record [("render-strategy", text settings.renderStrategy.name),
    ("paging", flag settings.paging)]

def GenerationSettings.ofDocument? (format : DocumentFormat) (document : Document) :
    Option GenerationSettings := do
  let fields ← document.fields? format generationLayout
  return {
    renderStrategy :=
      ← fields.defaulted "render-strategy" (choice? format RenderStrategy.names) .literalBlock
    paging := ← fields.defaulted "paging" flag? false }

def RelationOverride.document (changes : RelationOverride) : Document :=
  record [("render-strategy", ofOption (text ·.name) changes.renderStrategy),
    ("paging", ofOption flag changes.paging)]

def RelationOverride.ofDocument? (format : DocumentFormat) (document : Document) :
    Option RelationOverride := do
  let fields ← document.fields? format generationLayout
  return {
    renderStrategy := ← fields.optional "render-strategy" (choice? format RenderStrategy.names)
    paging := ← fields.optional "paging" flag? }

def Overrides.document (overrides : Overrides) : Document :=
  record (overrides.entries.map fun entry => (entry.1, entry.2.document))

/-- Overrides are always a record, keyed by relation name. -/
def Overrides.ofDocument? (format : DocumentFormat) : Document → Option Overrides
  | record entries => do
    let overrides ← entries.mapM fun entry =>
      (RelationOverride.ofDocument? format entry.2).map (entry.1, ·)
    return ofList overrides
  | _ => none

namespace Settings

def layout : Layout where
  names := ["dialect", "defaults", "relations", "insert-exclusions", "update-exclusions"]

def document (settings : Settings) : Document :=
  record [("dialect", text settings.dialect.name),
    ("defaults", settings.defaults.document),
    ("relations", settings.relations.document),
    ("insert-exclusions", texts settings.insertExclusions),
    ("update-exclusions", texts settings.updateExclusions)]

def ofDocument? (format : DocumentFormat) (document : Document) : Option Settings := do
  let fields ← document.fields? format layout
  return {
    dialect := ← fields.defaulted "dialect" (choice? format KnownDialect.names) .sqlServer
    defaults := ← fields.defaulted "defaults" (GenerationSettings.ofDocument? format) {}
    relations := ← fields.defaulted "relations" (Overrides.ofDocument? format) .empty
    insertExclusions := ← fields.defaulted "insert-exclusions" texts? []
    updateExclusions := ← fields.defaulted "update-exclusions" texts? [] }

/-- The settings that a document holds. A text that is no document is none. -/
def load (format : DocumentFormat) (document : Option Document) : Except Error Settings :=
  match document.bind (ofDocument? format) with
  | some settings => .ok settings
  | none => .error .malformedSettings

end Settings

end DataAccess

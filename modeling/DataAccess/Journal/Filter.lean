import DataAccess.Journal.Event
import DataAccess.Journal.Pattern

/-!
Filters of events. A filter is a list of directives separated by commas, such as
`warn,engine=trace`: a level for all sources, a source, or a source with a level. A directive may
also ask for a span and a field of events, as in `engine[{message}]=debug`. The most specific
directive that concerns an event decides.
-/
set_option autoImplicit false

namespace DataAccess

/-- A field that events must have, possibly with a certain value. -/
structure FieldTest where
  name : String
  isValued : Bool
deriving DecidableEq

structure Directive where
  /-- What the source of an event has to begin with. -/
  source : String := ""
  /-- The rank of the last level that is let through. -/
  rank : Nat := Level.trace.rank
  /-- Whether it concerns a span and what happens in it. -/
  inSpan : Bool := false
  field : Option FieldTest := none
deriving DecidableEq

abbrev EventFilter := List Directive

/-- The names of levels in filters, with their ranks. -/
def levelRanks : List (String × Nat) :=
  ("off", 0) :: [Level.error, .warn, .info, .debug, .trace].map fun level =>
    (level.name.toLower, level.rank)

def naturalNumber? (text : List Char) : Option Nat :=
  if Text.isDigits text then
    some (text.foldl (fun value c => 10 * value + (c.toNat - 48)) 0)
  else none

/-- The rank of a level that is given by its name, in any letter case, or as a number. -/
def levelRank? (text : List Char) : Option Nat :=
  (levelRanks.lookup (String.ofList text).toLower).or <|
    (naturalNumber? (if text.head? = some '+' then text.tail else text)).filter
      (· ≤ Level.trace.rank)

/-- Reads a test of a field: its name, and a value after an equals sign. What follows one more
equals sign does not count. -/
def FieldTest.parse? (text : List Char) : Option FieldTest :=
  match Text.pieces (· == '=') text with
  | name :: value :: _ => if Pattern.isValue value then some ⟨String.ofList name, true⟩ else none
  | _ => if text.isEmpty then none else some ⟨String.ofList text, false⟩

/-- What a directive is being read inside of; characters read so far stand in reverse. -/
inductive DirectivePart where
  | start
  | levelOrSource (read : List Char)
  | span (read : List Char)
  | field (read : List Char)
  | afterField
  | afterSpan
  | level (read : List Char)

namespace Directive

def startsDirective (c : Char) : Bool :=
  Text.isAlphanumeric c || c == '-' || c == ':' || c == '_'

/-- A directive as far as it has been read. -/
abbrev Reading := Directive × DirectivePart

/-- Takes one character, for which another one may be kept. -/
def step? : Reading → (Char × Char) → Option Reading
  | (directive, .start), (c, kept) =>
    if c = '[' then some (directive, .span [])
    else if startsDirective c then some (directive, .levelOrSource [kept])
    else none
  | (directive, .levelOrSource read), (c, kept) =>
    let source := String.ofList read.reverse
    if c = '=' then some ({ directive with source }, .level [])
    else if c = '[' then some ({ directive with source }, .span [])
    else some (directive, .levelOrSource (kept :: read))
  | (directive, .span read), (c, kept) =>
    if c = ']' then some ({ directive with inSpan := true }, .afterSpan)
    else if c = '\x7b' then some ({ directive with inSpan := !read.isEmpty }, .field [])
    else some (directive, .span (kept :: read))
  | (directive, .field read), (c, kept) =>
    if c = '\x7d' then do
      let test ← FieldTest.parse? read.reverse
      return ({ directive with field := some test }, .afterField)
    else some (directive, .field (kept :: read))
  | (directive, .afterField), (c, _) => if c = ']' then some (directive, .afterSpan) else none
  | (directive, .afterSpan), (c, _) => if c = '=' then some (directive, .level []) else none
  | (directive, .level read), (_, kept) => some (directive, .level (kept :: read))

/-- The directive at the end of a text, with what is left of the text. All levels are let through
if none is given. -/
def finish? (rest : List Char) : Reading → Option Directive
  | (directive, .levelOrSource read) =>
    let text := read.reverse ++ rest
    match levelRank? text with
    | some rank => some { directive with rank }
    | none => some { directive with source := String.ofList text }
  | (directive, .level read) =>
    let text := read.reverse ++ rest
    if text.isEmpty then some directive
    else (levelRank? text).map fun rank => { directive with rank }
  | (directive, .afterSpan) => some directive
  | _ => none

/-- Reads a directive. Blanks around it do not count for its form, but the parts are taken from
the text by the positions that they have without the blanks. -/
def parse? (text : List Char) : Option Directive := do
  let form := Text.trimBlank text
  finish? (text.drop form.length) (← (form.zip text).foldlM step? ({}, .start))

/-- Whether a directive concerns an event. No event happens in a span, its only field is its
message, and the value of that is not looked at. -/
def concerns (directive : Directive) (event : Event) : Bool :=
  !directive.inSpan &&
    directive.field.all (fun test => test.name = "message" && !test.isValued) &&
    directive.source.toList.isPrefixOf event.source.toList

/-- Whether a directive is no less specific than another: by the length of the source, and then by
whether it asks for a field. -/
def refines (directive other : Directive) : Bool :=
  other.source.length < directive.source.length ||
    (other.source.length = directive.source.length &&
      (directive.field.isSome || other.field.isNone))

end Directive

namespace EventFilter

/-- Reads a filter; an empty one lets errors through. -/
def parse? (text : String) : Option EventFilter := do
  let directives ← ((Text.pieces (· == ',') text.toList).filter (!·.isEmpty)).mapM Directive.parse?
  return if directives.isEmpty then [{ rank := Level.error.rank }] else directives

/-- The directive that decides on an event: of the most specific ones the last. -/
def deciding? (filter : EventFilter) (event : Event) : Option Directive :=
  (filter.filter (·.concerns event)).foldl (fun best directive =>
    if best.all directive.refines then some directive else best) none

def passes (filter : EventFilter) (event : Event) : Bool :=
  (filter.deciding? event).any fun directive => event.level.rank ≤ directive.rank

/-- The filter when none is given: warnings only, or all but traces. -/
def standard (verbose : Bool) : EventFilter :=
  [{ source := "crudgen", rank := if verbose then Level.debug.rank else Level.warn.rank }]

end EventFilter

end DataAccess

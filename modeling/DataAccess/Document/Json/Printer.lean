import DataAccess.Document.Basic
import DataAccess.Text.Quoted

/-!
Documents as JSON text over several lines: each item and entry stands on a line of its own,
indented by two spaces for each list and record around it.
-/
set_option autoImplicit false

namespace DataAccess.Json

/-- A character as it stands in a JSON text. -/
def escapeChar (c : Char) : List Char :=
  if c = '"' || c = '\\' then ['\\', c]
  else if c = '\x08' then ['\\', 'b']
  else if c = '\x0c' then ['\\', 'f']
  else if c = '\n' then ['\\', 'n']
  else if c = '\r' then ['\\', 'r']
  else if c = '\t' then ['\\', 't']
  else if c.toNat < 0x20 then
    ['\\', 'u', '0', '0', Text.hexDigit (c.toNat / 16), Text.hexDigit (c.toNat % 16)]
  else [c]

def quoted (text : String) : String :=
  String.ofList ('"' :: text.toList.flatMap escapeChar ++ ['"'])

def indentation (depth : Nat) : String :=
  String.ofList (List.replicate (2 * depth) ' ')

/-- Blocks between brackets, or the brackets alone. -/
def bracketed (opening closing : String) (depth : Nat) (blocks : List String) : String :=
  if blocks.isEmpty then opening ++ closing
  else
    opening ++ "\n" ++
      ",\n".intercalate (blocks.map (indentation (depth + 1) ++ ·)) ++
      "\n" ++ indentation depth ++ closing

mutual

def render (depth : Nat) : Document → String
  | .null | .unreadable => "null"
  | .flag value => if value then "true" else "false"
  | .number literal => literal
  | .text value => quoted value
  | .list items => bracketed "[" "]" depth (renderItems (depth + 1) items)
  | .record entries => bracketed "\x7b" "\x7d" depth (renderEntries (depth + 1) entries)

def renderItems (depth : Nat) : List Document → List String
  | [] => []
  | item :: rest => render depth item :: renderItems depth rest

def renderEntries (depth : Nat) : List (String × Document) → List String
  | [] => []
  | (key, value) :: rest =>
    (quoted key ++ ": " ++ render depth value) :: renderEntries depth rest

end

/-- A document as text. -/
def print (document : Document) : String :=
  render 0 document

end DataAccess.Json

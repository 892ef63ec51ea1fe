import DataAccess.Document.Toml.Table
import DataAccess.Document.Toml.Text

/-!
Documents from TOML text. The lines of a text are read one after the other: entries with a dotted
key and a value, and headers of tables; then they are put together to one record.
-/
set_option autoImplicit false

namespace DataAccess.Toml

/-- One less than the number of parts of a key, and of values inside of each other, at which a
text is refused. -/
def depthLimit : Nat := 79

def isKeyChar (c : Char) : Bool :=
  c.isAlphanum || c == '-' || c == '_'

def isWordChar (c : Char) : Bool :=
  isKeyChar c || c == '+' || c == '.' || c == ':'

def dropSpace (text : List Char) : List Char := text.dropWhile isSpace

/-- Reads one part of a key. -/
def keyPart? (text : List Char) : Option Scanned :=
  match text with
  | '"' :: _ | '\'' :: _ => quoted? text
  | _ =>
    let part := text.takeWhile isKeyChar
    if part.isEmpty then none else some (part, text.dropWhile isKeyChar)

/-- Reads a key of up to `limit` parts, with the space around it. -/
def key? (limit : Nat) (text : List Char) : Option (List String × List Char) :=
  match limit with
  | 0 => none
  | limit + 1 => do
    let (part, rest) ← keyPart? (dropSpace text)
    match dropSpace rest with
    | '.' :: rest => do
      let (parts, rest) ← key? limit rest
      return (String.ofList part :: parts, rest)
    | rest => return ([String.ofList part], rest)

/-- Drops space, line ends and comments; none if a comment holds a control character. -/
def dropLines? (inComment : Bool) : List Char → Option (List Char)
  | [] => some []
  | '\n' :: rest => dropLines? false rest
  | '\r' :: '\n' :: rest => dropLines? false rest
  | c :: rest =>
    if inComment then if isTextChar c then dropLines? true rest else none
    else if isSpace c then dropLines? false rest
    else if c = '#' then dropLines? true rest
    else some (c :: rest)

/-- Drops what may stand at the end of a line, and the line end. -/
def dropLineEnd? (text : List Char) : Option (List Char) :=
  let rest := match dropSpace text with
    | '#' :: comment => comment.dropWhile isTextChar
    | rest => rest
  if rest.isEmpty || startsNewline rest then some (dropNewline rest) else none

/-- Whether a space is followed by a digit. -/
def startsTime : List Char → Bool
  | ' ' :: c :: _ => c.isDigit
  | _ => false

/-- Reads a value that is one bare word. A time may be set apart from its date by a space. -/
def bare? (text : List Char) : Option (Document × List Char) := do
  let word := text.takeWhile isWordChar
  let rest := text.dropWhile isWordChar
  if dropDate? word = some [] && startsTime rest then
    let time := rest.tail.takeWhile isWordChar
    return (← scalar? (word ++ ' ' :: time), rest.tail.dropWhile isWordChar)
  else return (← scalar? word, rest)

mutual

/-- Reads a value with up to `depth` values around each other inside of it. The fuel bounds the
number of values and items. -/
def value? (fuel depth : Nat) (text : List Char) : Option (Document × List Char) :=
  match fuel with
  | 0 => none
  | fuel + 1 =>
    match text, depth with
    | '[' :: rest, depth + 1 => do
      let (items, rest) ← items? fuel depth rest
      return (.list items, rest)
    | '\x7b' :: rest, depth + 1 =>
      match dropSpace rest with
      | '\x7d' :: rest => some (.record [], rest)
      | rest => do
        let (entries, rest) ← inlineEntries? fuel depth [] rest
        return (.record (entryDocuments entries), rest)
    | '[' :: _, 0 | '\x7b' :: _, 0 => none
    | '"' :: _, _ | '\'' :: _, _ => do
      let (characters, rest) ← text? text
      return (.text (String.ofList characters), rest)
    | _, _ => bare? text

/-- Reads the items of an array up to its end. -/
def items? (fuel depth : Nat) (text : List Char) : Option (List Document × List Char) :=
  match fuel with
  | 0 => none
  | fuel + 1 => do
    match ← dropLines? false text with
    | ']' :: rest => return ([], rest)
    | text => do
      let (item, rest) ← value? fuel depth text
      match ← dropLines? false rest with
      | ',' :: rest => do
        let (items, rest) ← items? fuel depth rest
        return (item :: items, rest)
      | ']' :: rest => return ([item], rest)
      | _ => none

/-- Reads the entries of an inline table up to its end, with those that were read before. -/
def inlineEntries? (fuel depth : Nat) (before : Entries) (text : List Char) :
    Option (Entries × List Char) :=
  match fuel with
  | 0 => none
  | fuel + 1 => do
    let (keys, rest) ← key? depthLimit text
    match rest with
    | '=' :: rest => do
      let (value, rest) ← value? fuel depth (dropSpace rest)
      let entries ← assign value keys before
      match dropSpace rest with
      | ',' :: rest => inlineEntries? fuel depth entries rest
      | '\x7d' :: rest => return (entries, rest)
      | _ => none
    | _ => none

end

/-- What a line says. -/
inductive Line where
  | entry (key : List String) (value : Document)
  | table (path : List String)
  | row (path : List String)

/-- Reads a line that is not empty. -/
def line? (text : List Char) : Option (Line × List Char) :=
  match text with
  | '[' :: '[' :: rest => do
    match ← key? depthLimit rest with
    | (path, ']' :: ']' :: rest) => return (.row path, rest)
    | _ => none
  | '[' :: rest => do
    match ← key? depthLimit rest with
    | (path, ']' :: rest) => return (.table path, rest)
    | _ => none
  | text => do
    match ← key? depthLimit text with
    | (key, '=' :: rest) => do
      let (value, rest) ← value? (text.length + 1) depthLimit (dropSpace rest)
      return (.entry key value, rest)
    | _ => none

/-- Reads all lines of a text; the fuel bounds their number. -/
def lines? (fuel : Nat) (text : List Char) : Option (List Line) :=
  match fuel with
  | 0 => none
  | fuel + 1 => do
    match ← dropLines? false text with
    | [] => return []
    | text => do
      let (line, rest) ← line? text
      return line :: (← lines? fuel (← dropLineEnd? rest))

/-- The tables read so far, and the path of the header that entries stand under. -/
abbrev Opened := List String × Entries

def Opened.add? (opened : Opened) : Line → Option Opened
  | .entry key value => (within (assign value key) opened.1 opened.2).map (opened.1, ·)
  | .table path => (openTable path opened.2).map (path, ·)
  | .row path => (openRow path opened.2).map (path, ·)

def dropByteOrderMark : List Char → List Char
  | '\uFEFF' :: rest => rest
  | text => text

/-- Reads a text that is one document, which is always a record. -/
def read? (text : String) : Option Document := do
  let characters := dropByteOrderMark text.toList
  let lines ← lines? (characters.length + 1) characters
  let (_, entries) ← lines.foldlM Opened.add? ([], [])
  return .record (entryDocuments entries)

end DataAccess.Toml

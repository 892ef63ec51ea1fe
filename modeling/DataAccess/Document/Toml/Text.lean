import DataAccess.Document.Toml.Scalar

/-!
TOML texts: basic ones with escapes and literal ones without, each on one line or on several. A
text over several lines is closed by three quotes and may end in up to two more.
-/
set_option autoImplicit false

namespace DataAccess.Toml

/-- What may stand in a text or comment: no control character but the tabulator. -/
def isTextChar (c : Char) : Bool :=
  c == '\t' || (0x20 ≤ c.toNat && c != '\x7f')

def isSpace (c : Char) : Bool := c == ' ' || c == '\t'

/-- Drops one line end from the front, if there is one. -/
def dropNewline : List Char → List Char
  | '\n' :: rest | '\r' :: '\n' :: rest => rest
  | text => text

def startsNewline : List Char → Bool
  | '\n' :: _ | '\r' :: '\n' :: _ => true
  | _ => false

/-- What the character after a backslash stands for. -/
def escaped? (c : Char) : Option Char :=
  [('b', '\x08'), ('t', '\t'), ('n', '\n'), ('f', '\x0c'), ('r', '\r'), ('"', '"'),
    ('\\', '\\')].lookup c

/-- The character with a code point in hexadecimal digits; a surrogate is none. -/
def codePoint? (digits : List Char) : Option Char :=
  let code := numeral 16 digits
  if digits.all isHexDigit && (code < 0xD800 || (0xDFFF < code && code < 0x110000)) then
    some (Char.ofNat code)
  else none

/-- A text that is being read: its characters, and the input after it. -/
abbrev Scanned := List Char × List Char

def Scanned.push (c : Char) (scanned : Scanned) : Scanned :=
  (c :: scanned.1, scanned.2)

/-- Reads a basic text after its opening quote. -/
def basic? : List Char → Option Scanned
  | [] => none
  | '"' :: rest => some ([], rest)
  | '\\' :: 'u' :: a :: b :: c :: d :: rest => do
    return (← basic? rest).push (← codePoint? [a, b, c, d])
  | '\\' :: 'U' :: a :: b :: c :: d :: e :: f :: g :: h :: rest => do
    return (← basic? rest).push (← codePoint? [a, b, c, d, e, f, g, h])
  | '\\' :: c :: rest => do
    return (← basic? rest).push (← escaped? c)
  | c :: rest => if isTextChar c then (basic? rest).map (·.push c) else none

/-- Reads a literal text after its opening quote. -/
def literal? : List Char → Option Scanned
  | [] => none
  | '\'' :: rest => some ([], rest)
  | c :: rest => if isTextChar c then (literal? rest).map (·.push c) else none

/-- Reads a basic text of several lines after its opening quotes. While `folding`, the white
space after a backslash at the end of a line is dropped. -/
def basicLines? (folding : Bool) : List Char → Option Scanned
  | [] => none
  | '"' :: '"' :: '"' :: '"' :: '"' :: rest => some (['"', '"'], rest)
  | '"' :: '"' :: '"' :: '"' :: rest => some (['"'], rest)
  | '"' :: '"' :: '"' :: rest => some ([], rest)
  | '\\' :: 'u' :: a :: b :: c :: d :: rest => do
    return (← basicLines? false rest).push (← codePoint? [a, b, c, d])
  | '\\' :: 'U' :: a :: b :: c :: d :: e :: f :: g :: h :: rest => do
    return (← basicLines? false rest).push (← codePoint? [a, b, c, d, e, f, g, h])
  | '\\' :: c :: rest =>
    if startsNewline ((c :: rest).dropWhile isSpace) then basicLines? true (c :: rest)
    else do return (← basicLines? false rest).push (← escaped? c)
  | '\r' :: '\n' :: rest =>
    if folding then basicLines? true rest else (basicLines? false rest).map (·.push '\n')
  | '\n' :: rest =>
    if folding then basicLines? true rest else (basicLines? false rest).map (·.push '\n')
  | c :: rest =>
    if folding && isSpace c then basicLines? true rest
    else if isTextChar c then (basicLines? false rest).map (·.push c)
    else none

/-- Reads a literal text of several lines after its opening quotes. -/
def literalLines? : List Char → Option Scanned
  | [] => none
  | '\'' :: '\'' :: '\'' :: '\'' :: '\'' :: rest => some (['\'', '\''], rest)
  | '\'' :: '\'' :: '\'' :: '\'' :: rest => some (['\''], rest)
  | '\'' :: '\'' :: '\'' :: rest => some ([], rest)
  | '\r' :: '\n' :: rest => (literalLines? rest).map (·.push '\n')
  | '\n' :: rest => (literalLines? rest).map (·.push '\n')
  | c :: rest => if isTextChar c then (literalLines? rest).map (·.push c) else none

/-- Reads a quoted text of one line. -/
def quoted? : List Char → Option Scanned
  | '"' :: rest => basic? rest
  | '\'' :: rest => literal? rest
  | _ => none

/-- Reads a quoted text of one or several lines; a line end right after the opening quotes does
not belong to it. -/
def text? : List Char → Option Scanned
  | '"' :: '"' :: '"' :: rest => basicLines? false (dropNewline rest)
  | '\'' :: '\'' :: '\'' :: rest => literalLines? (dropNewline rest)
  | text => quoted? text

end DataAccess.Toml

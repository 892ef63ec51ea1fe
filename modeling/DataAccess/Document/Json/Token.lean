import DataAccess.Document.Basic
import DataAccess.Text.Digits

/-!
The tokens of JSON text. The text is read character by character by an automaton; white space
ends a word and separates tokens, and a text may hold no control characters.
-/
set_option autoImplicit false

namespace DataAccess.Json

open Text (isDigits isExponent hexValue?)

inductive Token where
  | openList
  | closeList
  | openRecord
  | closeRecord
  | comma
  | colon
  /-- A text, or none for an escaped code unit that is no character. -/
  | text (value : Option String)
  | scalar (value : Document)

/-- What a text consists of: characters, and UTF-16 code units given by escapes. -/
inductive TextPart where
  | char (c : Char)
  | unit (value : Nat)

def isLeadUnit (unit : Nat) : Bool := 0xD800 ≤ unit && unit ≤ 0xDBFF

def isTrailUnit (unit : Nat) : Bool := 0xDC00 ≤ unit && unit ≤ 0xDFFF

/-- The character that a surrogate pair stands for. -/
def pairChar (lead trail : Nat) : Char :=
  Char.ofNat (0x10000 + (lead - 0xD800) * 0x400 + (trail - 0xDC00))

/-- The characters of a text; surrogates must be paired. -/
def characters? : List TextPart → Option (List Char)
  | [] => some []
  | .char c :: rest => (characters? rest).map (c :: ·)
  | .unit lead :: .unit trail :: rest =>
    if isLeadUnit lead then
      if isTrailUnit trail then (characters? rest).map (pairChar lead trail :: ·) else none
    else if isTrailUnit lead then none
    else (characters? (.unit trail :: rest)).map (Char.ofNat lead :: ·)
  | .unit value :: rest =>
    if isLeadUnit value || isTrailUnit value then none
    else (characters? rest).map (Char.ofNat value :: ·)

/-- A token that is being read; parts read so far stand in reverse. -/
inductive Lexeme where
  | none
  | word (read : List Char)
  | text (read : List TextPart)
  | escape (read : List TextPart)
  /-- Inside of the four hexadecimal digits of a code unit. -/
  | code (read : List TextPart) (digits value : Nat)

/-- What the character after a backslash stands for. -/
def escaped? (c : Char) : Option Char :=
  [('"', '"'), ('\\', '\\'), ('/', '/'), ('b', '\x08'), ('f', '\x0c'), ('n', '\n'),
    ('r', '\r'), ('t', '\t')].lookup c

/-- No digit but zero may follow a leading zero. -/
def isWhole (text : List Char) : Bool :=
  isDigits text && (text.head? != some '0' || text.length == 1)

def isFraction : List Char → Bool
  | '.' :: rest =>
    isDigits (rest.takeWhile Char.isDigit) && isExponent (rest.dropWhile Char.isDigit)
  | rest => isExponent rest

/-- A number: a whole part, with a fraction and an exponent or without. -/
def isNumber (text : List Char) : Bool :=
  let unsigned := match text with
    | '-' :: rest => rest
    | rest => rest
  isWhole (unsigned.takeWhile Char.isDigit) && isFraction (unsigned.dropWhile Char.isDigit)

def wordToken? (word : String) : Option Token :=
  if word = "null" then some (.scalar .null)
  else if word = "true" then some (.scalar (.flag true))
  else if word = "false" then some (.scalar (.flag false))
  else if isNumber word.toList then some (.scalar (.number word))
  else none

def isSpace (c : Char) : Bool :=
  c == ' ' || c == '\t' || c == '\n' || c == '\r'

def isWordChar (c : Char) : Bool :=
  c.isAlphanum || c == '+' || c == '-' || c == '.'

def punctuation? (c : Char) : Option Token :=
  match c with
  | '[' => some .openList
  | ']' => some .closeList
  | '\x7b' => some .openRecord
  | '\x7d' => some .closeRecord
  | ',' => some .comma
  | ':' => some .colon
  | _ => none

/-- Takes a character between tokens. -/
def begin? (c : Char) : Option (List Token × Lexeme) :=
  if isSpace c then some ([], .none)
  else if c = '"' then some ([], .text [])
  else if isWordChar c then some ([], .word [c])
  else (punctuation? c).map fun token => ([token], .none)

def closeText (read : List TextPart) : Token :=
  .text ((characters? read.reverse).map String.ofList)

/-- Takes a character: the tokens that it completes and what is being read after it. -/
def step? (lexeme : Lexeme) (c : Char) : Option (List Token × Lexeme) :=
  match lexeme with
  | .none => begin? c
  | .word read =>
    if isWordChar c then some ([], .word (c :: read))
    else do
      let word ← wordToken? (String.ofList read.reverse)
      let (tokens, next) ← begin? c
      return (word :: tokens, next)
  | .text read =>
    if c = '"' then some ([closeText read], .none)
    else if c = '\\' then some ([], .escape read)
    else if c.toNat < 0x20 then Option.none
    else some ([], .text (.char c :: read))
  | .escape read =>
    if c = 'u' then some ([], .code read 0 0)
    else (escaped? c).map fun char => ([], .text (.char char :: read))
  | .code read digits value =>
    (hexValue? c).map fun digit =>
      let value := 16 * value + digit
      ([], if digits = 3 then .text (.unit value :: read) else .code read (digits + 1) value)

/-- The tokens read so far, in reverse, and the one that is being read. -/
abbrev Lexed := List Token × Lexeme

def Lexed.step? (lexed : Lexed) (c : Char) : Option Lexed := do
  let (tokens, next) ← Json.step? lexed.2 c
  return (tokens.reverse ++ lexed.1, next)

/-- The tokens at the end of a text, which may end a word but nothing else. -/
def Lexed.finish? : Lexed → Option (List Token)
  | (tokens, .none) => some tokens.reverse
  | (tokens, .word read) => do
    return (← wordToken? (String.ofList read.reverse)) :: tokens |>.reverse
  | _ => Option.none

/-- The tokens of a text. -/
def tokens? (text : String) : Option (List Token) := do
  Lexed.finish? (← text.toList.foldlM Lexed.step? ([], .none))

end DataAccess.Json

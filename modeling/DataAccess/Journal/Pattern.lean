import DataAccess.Text.Alphanumeric
import DataAccess.Text.Blank
import DataAccess.Text.Digits

/-!
Regular expressions in filters of events: which texts are one. An expression stands between
braces and so holds no closing brace; hence counted repetitions and whatever else is closed by a
brace are never complete. Letters, digits and letter case are known in ASCII only, so that an
expression that asks for more is refused, as is one that looks at the borders of words, unless it
turns Unicode off.
-/
set_option autoImplicit false

namespace DataAccess.Pattern

open Text

/-- What flags such as `(?i)` turn on and off for the rest of a group. -/
structure Options where
  ignoreCase : Bool := false
  unicode : Bool := true
  /-- White space and comments are passed over. -/
  spaced : Bool := false

/-- An expression that is being read. -/
structure Reading where
  options : Options := {}
  /-- The options outside of each group that is open. -/
  around : List Options := []
  /-- How many classes are open within each other. -/
  classes : Nat := 0
  /-- Whether there is something before that can be repeated. -/
  repeatable : Bool := false
  /-- The names of groups. -/
  names : List (List Char) := []

/-- An expression that is being read, and the text after it. -/
abbrev Step := Reading × List Char

/-- Drops white space, and comments from a number sign to the end of the line. -/
def dropSpace (inComment : Bool) : List Char → List Char
  | [] => []
  | c :: rest =>
    if inComment then dropSpace (c != '\n') rest
    else if isBlank c then dropSpace false rest
    else if c = '#' then dropSpace true rest
    else c :: rest

namespace Options

/-- Drops what may stand between the parts of an expression. -/
def skip (options : Options) (text : List Char) : List Char :=
  if options.spaced then dropSpace false text else text

/-- Whether a character can stand for itself: with letter case ignored it would stand for all its
case forms. -/
def knowsCase (options : Options) : Bool :=
  !options.ignoreCase || !options.unicode

/-- Turns a flag on or off. -/
def set (options : Options) (value : Bool) : Char → Options
  | 'i' => { options with ignoreCase := value }
  | 'u' => { options with unicode := value }
  | 'x' => { options with spaced := value }
  | _ => options

/-- Turns the flags before a dash on and those after it off. -/
def withFlags (options : Options) (flags : List Char) : Options :=
  let on := (flags.takeWhile (· != '-')).foldl (·.set true) options
  (flags.dropWhile (· != '-')).foldl (·.set false) on

end Options

/-- What an escape stands for. -/
inductive Escaped where
  | char (code : Nat)
  /-- Some kind of characters. -/
  | kind
  /-- A place between characters. -/
  | place

/-- Reads a number of hexadecimal digits. -/
def hexNumber? (options : Options) : Nat → Nat → List Char → Option (Nat × List Char)
  | 0, value, text => some (value, text)
  | count + 1, value, text =>
    match options.skip text with
    | [] => none
    | c :: rest => do hexNumber? options count (16 * value + (← hexValue? c)) rest

/-- Reads the code point of a character. A byte that is no ASCII character has none without
Unicode. -/
def codePoint? (options : Options) (count : Nat) (text : List Char) :
    Option (Escaped × List Char) := do
  let (code, rest) ← hexNumber? options count 0 text
  guard (code < 0xD800 || (0xDFFF < code && code < 0x110000))
  guard (options.unicode || 2 < count || code < 0x80)
  return (.char code, rest)

/-- The control characters that have an escape of their own. -/
def controlCodes : List (Char × Nat) :=
  [('a', 7), ('f', 12), ('n', 10), ('r', 13), ('t', 9), ('v', 11)]

/-- Reads an escape after its backslash. -/
def escape? (options : Options) : List Char → Option (Escaped × List Char)
  | [] => none
  | 'x' :: rest => codePoint? options 2 rest
  | 'u' :: rest => codePoint? options 4 rest
  | 'U' :: rest => codePoint? options 8 rest
  | c :: rest =>
    if ['d', 's', 'w'].contains c then if options.unicode then none else some (.kind, rest)
    else if ['b', 'B', '<', '>'].contains c then
      if options.unicode then none else some (.place, rest)
    else if c = 'A' || c = 'z' then some (.place, rest)
    else match controlCodes.lookup c with
      | some code => some (.char code, rest)
      | none => if c.toNat < 0x80 && !c.isAlphanum then some (.char c.toNat, rest) else none

/-! ## Classes -/

def classNames : List String :=
  ["alnum", "alpha", "ascii", "blank", "cntrl", "digit", "graph", "lower", "print", "punct",
    "space", "upper", "word", "xdigit"]

/-- Reads the name of a class, as in `[:^alpha:]`, after its bracket: whether it is negated, and
the text after it. -/
def namedClass? : List Char → Option (Bool × List Char)
  | ':' :: rest =>
    let named := if rest.head? = some '^' then rest.tail else rest
    match named.dropWhile (· != ':') with
    | ':' :: ']' :: after =>
      if classNames.contains (String.ofList (named.takeWhile (· != ':'))) then
        some (rest.head? = some '^', after)
      else none
    | _ => none
  | _ => none

/-- Reads one character or kind of characters in a class. -/
def classItem? (options : Options) : List Char → Option (Escaped × List Char)
  | [] => none
  | '\\' :: rest => escape? options rest
  | c :: rest => some (.char c.toNat, rest)

def Escaped.isInClass (options : Options) : Escaped → Bool
  | char code => options.unicode || code < 0x80
  | kind => true
  | place => false

/-- Reads an item of a class or a range of characters. A dash before the end of the class or
before another dash opens no range. -/
def classRange? (options : Options) (text : List Char) : Option (List Char) := do
  let (first, rest) ← classItem? options text
  guard (first.isInClass options)
  let rest := options.skip rest
  let next := options.skip rest.tail
  if rest.head? = some '-' && next.head? != some ']' && next.head? != some '-' then
    let (last, rest) ← classItem? options next
    match first, last with
    | .char low, .char high =>
      guard (low ≤ high && last.isInClass options)
      return rest
    | _, _ => none
  else return rest

/-- Opens a class after its bracket. Dashes at the beginning stand for themselves, and so does a
closing bracket there. Without Unicode there is nothing to negate. -/
def openClass? (reading : Reading) (text : List Char) : Option Step := do
  let options := reading.options
  let text := options.skip text
  let negated := text.head? = some '^'
  guard (options.knowsCase && (options.unicode || !negated))
  let items := if negated then options.skip text.tail else text
  let rest := options.skip (items.dropWhile (· == '-'))
  let first := items.head? != some '-' && rest.head? = some ']'
  return ({ reading with classes := reading.classes + 1 }, if first then rest.tail else rest)

/-- Reads on in a class. -/
def classStep? (reading : Reading) (text : List Char) : Option Step :=
  match text with
  | '[' :: rest =>
    match namedClass? rest with
    | some (negated, after) =>
      if negated && !reading.options.unicode then none else some (reading, after)
    | none => openClass? reading rest
  | ']' :: rest =>
    some ({ reading with classes := reading.classes - 1, repeatable := true }, rest)
  | '&' :: '&' :: rest | '-' :: '-' :: rest | '~' :: '~' :: rest => some (reading, rest)
  | text => (classRange? reading.options text).map (reading, ·)

/-! ## Groups -/

def isNameStart (c : Char) : Bool :=
  isIdentChar c && !c.isDigit

def isNameChar (c : Char) : Bool :=
  isIdentChar c || c == '.' || c == '[' || c == ']'

/-- Goes into a group. -/
def Reading.enter (reading : Reading) (options : Options) : Reading :=
  { reading with options, around := reading.options :: reading.around, repeatable := false }

/-- Opens a group after its name has begun; no two groups have one name. -/
def openNamed? (reading : Reading) (text : List Char) : Option Step :=
  let name := text.takeWhile (· != '>')
  match text.dropWhile (· != '>') with
  | '>' :: rest =>
    if name.head?.any isNameStart && name.all isNameChar && !reading.names.contains name then
      some ({ reading.enter reading.options with names := name :: reading.names }, rest)
    else none
  | _ => none

def flagChars : List Char := ['i', 'm', 's', 'U', 'u', 'R', 'x', '-']

/-- Reads flags, for a group that they open or for the rest of the one they stand in. -/
def readFlags? (reading : Reading) (text : List Char) : Option Step := do
  let isFlag (c : Char) : Bool := c != ':' && c != ')'
  let flags := text.takeWhile isFlag
  guard (flags.all flagChars.contains && flags.Nodup && flags.getLast? != some '-')
  let options := reading.options.withFlags flags
  match text.dropWhile isFlag with
  | ':' :: rest => return (reading.enter options, rest)
  | ')' :: rest =>
    guard (!flags.isEmpty)
    return ({ reading with options, repeatable := false }, rest)
  | _ => none

/-- Opens a group after its parenthesis. -/
def openGroup? (reading : Reading) (text : List Char) : Option Step :=
  match reading.options.skip text with
  | '?' :: 'P' :: '<' :: rest | '?' :: '<' :: rest => openNamed? reading rest
  | '?' :: rest => readFlags? reading rest
  | rest => some (reading.enter reading.options, rest)

/-! ## Expressions -/

/-- The reading after something that can be repeated. -/
def Reading.item (reading : Reading) : Reading :=
  { reading with repeatable := true }

/-- Reads on outside of classes. -/
def step? (reading : Reading) (text : List Char) : Option Step :=
  let options := reading.options
  match text with
  | [] | '\x7b' :: _ => none
  | '(' :: rest => openGroup? reading rest
  | ')' :: rest =>
    match reading.around with
    | [] => none
    | options :: around => some ({ reading.item with options, around }, rest)
  | '|' :: rest => some ({ reading with repeatable := false }, rest)
  | '[' :: rest => openClass? reading rest
  | '?' :: rest | '*' :: rest | '+' :: rest =>
    if reading.repeatable then some (reading, rest) else none
  | '\\' :: rest => do
    match ← escape? options rest with
    | (.char _, rest) => if options.knowsCase then some (reading.item, rest) else none
    | (_, rest) => some (reading.item, rest)
  | '.' :: rest => if options.unicode then some (reading.item, rest) else none
  | '^' :: rest | '$' :: rest => some (reading.item, rest)
  | _ :: rest => if options.knowsCase then some (reading.item, rest) else none

/-- Whether the text goes on to a complete expression; the fuel bounds its steps. -/
def completes (fuel : Nat) (reading : Reading) (text : List Char) : Bool :=
  match fuel, reading.options.skip text with
  | 0, _ => false
  | _, [] => reading.classes = 0 && reading.around.isEmpty
  | fuel + 1, text =>
    match if reading.classes = 0 then step? reading text else classStep? reading text with
    | some (reading, rest) => completes fuel reading rest
    | none => false

/-- Whether a text is a regular expression. -/
def isExpression (text : List Char) : Bool :=
  completes (text.length + 1) {} text

/-- A number without a sign, or a word for one. -/
def isUnsignedNumber (text : List Char) : Bool :=
  let whole := text.takeWhile Char.isDigit
  let after := text.dropWhile Char.isDigit
  let fraction := if after.head? = some '.' then after.tail else after
  ["inf", "infinity", "nan"].contains (String.ofList text).toLower ||
    ((!whole.isEmpty || (after.head? = some '.' && fraction.head?.any Char.isDigit)) &&
      isExponent (if after.head? = some '.' then fraction.dropWhile Char.isDigit else after))

/-- Whether a text is what a field can be asked for: an expression, or a number. Only a number
with a plus sign is no expression. -/
def isValue : List Char → Bool
  | '+' :: rest => isUnsignedNumber rest
  | text => isExpression text

end DataAccess.Pattern

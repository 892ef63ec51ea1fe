import DataAccess.Document.Basic

/-!
TOML values that are written as one bare word: booleans, integers of 64 bits, floating-point
numbers, dates and times. Digits of a number may be grouped by underscores.
-/
set_option autoImplicit false

namespace DataAccess.Toml

/-- Digits, possibly with single underscores between them; gives the digits alone. -/
def digits? (isDigit : Char → Bool) : List Char → Option (List Char)
  | [] => none
  | [c] => if isDigit c then some [c] else none
  | c :: '_' :: rest => if isDigit c then (digits? isDigit rest).map (c :: ·) else none
  | c :: rest => if isDigit c then (digits? isDigit rest).map (c :: ·) else none

def digitValue (c : Char) : Nat :=
  if c.isDigit then c.toNat - 48
  else if 'a' ≤ c then c.toNat - 87
  else c.toNat - 55

def numeral (base : Nat) (digits : List Char) : Nat :=
  digits.foldl (fun value c => base * value + digitValue c) 0

def isBinaryDigit (c : Char) : Bool := c == '0' || c == '1'

def isOctalDigit (c : Char) : Bool := '0' ≤ c && c ≤ '7'

def isHexDigit (c : Char) : Bool :=
  c.isDigit || ('a' ≤ c && c ≤ 'f') || ('A' ≤ c && c ≤ 'F')

/-- Whether a word is negative, and the word without its sign. -/
def splitSign : List Char → Bool × List Char
  | '+' :: rest => (false, rest)
  | '-' :: rest => (true, rest)
  | word => (false, word)

/-- A whole number in base ten; a leading zero stands alone. -/
def whole? (word : List Char) : Option (List Char) :=
  if word.head? = some '0' && word.length != 1 then none else digits? Char.isDigit word

def isInRange (base : Nat) (digits : Option (List Char)) (bound : Nat) : Bool :=
  digits.any fun digits => numeral base digits < bound

/-- What an integer of 64 bits is below. -/
def integerBound : Nat := Nat.pow 2 63

def isInteger : List Char → Bool
  | '0' :: 'x' :: rest => isInRange 16 (digits? isHexDigit rest) integerBound
  | '0' :: 'o' :: rest => isInRange 8 (digits? isOctalDigit rest) integerBound
  | '0' :: 'b' :: rest => isInRange 2 (digits? isBinaryDigit rest) integerBound
  | word =>
    let (negative, rest) := splitSign word
    isInRange 10 (whole? rest) (if negative then integerBound + 1 else integerBound)

/-- A decimal number: the value of `digits` times a power of ten. -/
structure Decimal where
  digits : List Char
  exponent : Int

/-- The least number that is rounded to infinity in double precision. -/
def doubleBound : Nat := (Nat.pow 2 54 - 1) * Nat.pow 2 970

/-- Whether a number is too large for double precision. Its order of magnitude decides, unless
that is near the bound. -/
def Decimal.overflows (number : Decimal) : Bool :=
  let digits := number.digits.dropWhile (· == '0')
  let magnitude := digits.length + number.exponent
  if digits.isEmpty || magnitude < 300 then false
  else if 310 < magnitude then true
  else if 0 ≤ number.exponent then
    doubleBound ≤ numeral 10 digits * Nat.pow 10 number.exponent.toNat
  else doubleBound * Nat.pow 10 (-number.exponent).toNat ≤ numeral 10 digits

def isGroupChar (c : Char) : Bool := c.isDigit || c == '_'

/-- The exponent of a number: its sign and digits after the letter e. -/
def exponent? : List Char → Option Int
  | [] => some 0
  | c :: rest =>
    if c == 'e' || c == 'E' then
      let (negative, digits) := splitSign rest
      (digits? Char.isDigit digits).map fun digits =>
        if negative then -(numeral 10 digits : Int) else numeral 10 digits
    else none

/-- A number without a sign that has a fraction or an exponent. -/
def decimal? (word : List Char) : Option Decimal := do
  let whole ← whole? (word.takeWhile isGroupChar)
  match word.dropWhile isGroupChar with
  | [] => none
  | '.' :: rest => do
    let fraction ← digits? Char.isDigit (rest.takeWhile isGroupChar)
    let exponent ← exponent? (rest.dropWhile isGroupChar)
    return ⟨whole ++ fraction, exponent - fraction.length⟩
  | rest => return ⟨whole, ← exponent? rest⟩

/-- A floating-point number. One that would be rounded to infinity is refused, but one that
would be rounded to negative infinity is not. -/
def isFloat (word : List Char) : Bool :=
  let (negative, rest) := splitSign word
  rest = ['i', 'n', 'f'] || rest = ['n', 'a', 'n'] ||
    (decimal? rest).any fun number => negative || !number.overflows

/-- A number of exactly two digits. -/
def twoDigits? (first second : Char) : Option Nat :=
  if first.isDigit && second.isDigit then some (numeral 10 [first, second]) else none

def isLeapYear (year : Nat) : Bool :=
  year % 4 = 0 && (year % 100 != 0 || year % 400 = 0)

def daysOfMonth (year month : Nat) : Nat :=
  if month = 2 then if isLeapYear year then 29 else 28
  else if [4, 6, 9, 11].contains month then 30
  else 31

/-- Drops a date from the front. -/
def dropDate? : List Char → Option (List Char)
  | y1 :: y2 :: y3 :: y4 :: '-' :: m1 :: m2 :: '-' :: d1 :: d2 :: rest => do
    let year := 100 * (← twoDigits? y1 y2) + (← twoDigits? y3 y4)
    let month ← twoDigits? m1 m2
    let day ← twoDigits? d1 d2
    guard (1 ≤ month && month ≤ 12 && 1 ≤ day && day ≤ daysOfMonth year month)
    return rest
  | _ => none

/-- Drops an hour and a minute from the front. -/
def dropHourMinute? : List Char → Option (List Char)
  | h1 :: h2 :: ':' :: m1 :: m2 :: rest => do
    guard ((← twoDigits? h1 h2) < 24 && (← twoDigits? m1 m2) < 60)
    return rest
  | _ => none

/-- Drops a time of day from the front; a minute may have a leap second. -/
def dropTime? (word : List Char) : Option (List Char) := do
  match ← dropHourMinute? word with
  | ':' :: s1 :: s2 :: rest =>
    guard ((← twoDigits? s1 s2) ≤ 60)
    match rest with
    | '.' :: fraction =>
      guard (fraction.head?.any Char.isDigit)
      return fraction.dropWhile Char.isDigit
    | rest => return rest
  | _ => none

/-- The distance from universal time, or none. -/
def isOffset : List Char → Bool
  | [] | ['Z'] | ['z'] => true
  | '+' :: rest | '-' :: rest => dropHourMinute? rest = some []
  | _ => false

def isDateTime (word : List Char) : Bool :=
  match dropDate? word with
  | some [] => true
  | some (c :: time) =>
    (c == 'T' || c == 't' || c == ' ') && (dropTime? time).any isOffset
  | none => dropTime? word = some []

/-- The value of a bare word. A date is a record, as nothing that is read has one. -/
def scalar? (word : List Char) : Option Document :=
  let spelling := String.ofList word
  if word = ['t', 'r', 'u', 'e'] then some (.flag true)
  else if word = ['f', 'a', 'l', 's', 'e'] then some (.flag false)
  else if isDateTime word then some (.record [("date-time", .text spelling)])
  else if isFloat word || isInteger word then some (.number spelling)
  else none

end DataAccess.Toml

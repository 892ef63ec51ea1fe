/-!
Coloured text on terminals. A style is a list of codes; text in a style stands between a sequence
that turns the style on and one that turns all styles off.
-/
set_option autoImplicit false

namespace DataAccess.CommandLine

inductive Style where
  | heading
  | title
  | name
  | signature
  | code
  | label
  | note
  | failure

/-- The codes of a style: 1 is bold, 2 dimmed, from 30 on are colours. -/
def Style.codes : Style → String
  | heading => "1;36"
  | title => "1;37"
  | name => "36"
  | signature => "32"
  | code => "37"
  | label => "33"
  | note => "2"
  | failure => "1;31"

def turnOff : String := "\x1b[0m"

/-- A text in a style. Where the text turns styles off itself, the style is turned on again. -/
def styled (colored : Bool) (style : Style) (text : String) : String :=
  if colored then
    let turnOn := "\x1b[" ++ style.codes ++ "m"
    turnOn ++ text.replace turnOff (turnOff ++ turnOn) ++ turnOff
  else text

/-- A text with spaces after it up to a width. -/
def padded (width : Nat) (text : String) : String :=
  text ++ String.ofList (List.replicate (width - text.length) ' ')

end DataAccess.CommandLine

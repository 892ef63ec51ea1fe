import DataAccess.Text.Cluster
import DataAccess.Text.LetterCase

/-!
Names in the case styles of generated code. A name is cut into words at separators, at changes
of case and at digits, and the words are put together again as `PascalCase`, `camelCase` or
`snake_case`.
-/
set_option autoImplicit false

namespace DataAccess.Casing

open Text

/-- A cluster that differs from its lowercase form and equals its uppercase form. -/
def isUpper (cluster : List Char) : Bool :=
  uppercase cluster != lowercase cluster && cluster == uppercase cluster

/-- A cluster that differs from its uppercase form and equals its lowercase form. -/
def isLower (cluster : List Char) : Bool :=
  uppercase cluster != lowercase cluster && cluster == lowercase cluster

def isDigit (cluster : List Char) : Bool :=
  cluster.all Char.isDigit

def isSeparator (cluster : List Char) : Bool :=
  cluster == ['_'] || cluster == ['-'] || cluster == [' ']

/-- Whether a word ends after `cluster`, given the clusters that follow it. A run of capitals
before a small letter gives up its last capital to the next word. -/
def endsWord (cluster : List Char) : List (List Char) → Bool
  | [] => false
  | next :: rest =>
    (isLower cluster && (isUpper next || isDigit next)) ||
    (isDigit cluster && (isUpper next || isLower next)) ||
    (isUpper cluster && (isDigit next ||
      (isUpper next && match rest with | [] => false | third :: _ => isLower third)))

/-- Puts a cluster before the first word. -/
def extendFirst (cluster : List Char) : List (List Char) → List (List Char)
  | [] => [cluster]
  | word :: rest => (cluster ++ word) :: rest

/-- The words of a sequence of clusters. Words between adjacent separators are empty. -/
def wordsOfClusters : List (List Char) → List (List Char)
  | [] => [[]]
  | cluster :: rest =>
    if isSeparator cluster then [] :: wordsOfClusters rest
    else if endsWord cluster rest then cluster :: wordsOfClusters rest
    else extendFirst cluster (wordsOfClusters rest)

/-- The words of a name; the empty name has none. -/
def nameWords : List Char → List (List Char)
  | [] => []
  | name => wordsOfClusters (clusters name)

/-- The first character in uppercase, the others in lowercase. -/
def capitalize : List Char → List Char
  | [] => []
  | c :: rest => upperOf c ++ lowercase rest

def pascalChars (name : List Char) : List Char :=
  (nameWords name).flatMap capitalize

def camelChars (name : List Char) : List Char :=
  match nameWords name with
  | [] => []
  | first :: rest => lowercase first ++ rest.flatMap capitalize

def snakeChars (name : List Char) : List Char :=
  ['_'].intercalate ((nameWords name).map lowercase)

def pascal (name : String) : String := String.ofList (pascalChars name.toList)

def camel (name : String) : String := String.ofList (camelChars name.toList)

def snake (name : String) : String := String.ofList (snakeChars name.toList)

end DataAccess.Casing

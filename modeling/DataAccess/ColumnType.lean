import DataAccess.Text.Alphanumeric
import DataAccess.Text.Blank
import DataAccess.Text.LetterCase

/-!
Declared column types and what they resolve to. A declared type is a base name, as in
`double precision`, with arguments in parentheses or none, as in `decimal(12, 2)`. A resolver
maps a declared type to the type that carries its values in generated code and to the tag that
the database driver knows it by.
-/
set_option autoImplicit false

namespace DataAccess

open Text

/-- The driver's tag of a type, which an output binding is declared with. -/
inductive DbType where
  | boolean
  | byte
  | int16
  | int32
  | int64
  | single
  | double
  | decimal
  | currency
  | ansiString
  | string
  | date
  | dateTime
  | dateTime2
  | dateTimeOffset
  | time
  | guid
  | binary
  | xml
deriving DecidableEq

def DbType.name : DbType → String
  | boolean => "Boolean"
  | byte => "Byte"
  | int16 => "Int16"
  | int32 => "Int32"
  | int64 => "Int64"
  | single => "Single"
  | double => "Double"
  | decimal => "Decimal"
  | currency => "Currency"
  | ansiString => "AnsiString"
  | string => "String"
  | date => "Date"
  | dateTime => "DateTime"
  | dateTime2 => "DateTime2"
  | dateTimeOffset => "DateTimeOffset"
  | time => "Time"
  | guid => "Guid"
  | binary => "Binary"
  | xml => "Xml"

structure ResolvedType where
  /-- The type of a value in generated code. -/
  target : String
  dbType : DbType
deriving DecidableEq

/-- The same type with room for a missing value. -/
def ResolvedType.nullable (type : ResolvedType) : ResolvedType :=
  { type with target := "Option<" ++ type.target ++ ">" }

def ResolvedType.isGuid (type : ResolvedType) : Bool :=
  type.dbType == .guid

/-- A declared type split into its lowercase base name and its arguments. -/
structure DeclaredType where
  base : String
  arguments : List String
deriving DecidableEq

namespace DeclaredType

def isBaseChar (c : Char) : Bool :=
  isIdentChar c || c == ' '

/-- The space that may stand around an argument. -/
def isArgumentSpace (c : Char) : Bool :=
  c == ' ' || c == '\t' || c == '\r' || c == '\n'

/-- One argument: letters and numbers, with space around them. -/
def argument? (piece : List Char) : Option String :=
  let word := ((piece.dropWhile isArgumentSpace).reverse.dropWhile isArgumentSpace).reverse
  if !word.isEmpty && word.all isAlphanumeric then some (String.ofList word) else none

/-- The arguments between the parentheses. -/
def arguments? (inner : List Char) : Option (List String) :=
  (pieces (· == ',') inner).mapM argument?

def parseChars? (text : List Char) : Option DeclaredType :=
  let base := trimBlank (text.takeWhile isBaseChar)
  if base.isEmpty then none
  else
    let name := String.ofList (lowercase base)
    match text.dropWhile isBaseChar with
    | [] => some ⟨name, []⟩
    | '(' :: rest =>
      if rest.getLast? = some ')' then (arguments? rest.dropLast).map (⟨name, ·⟩) else none
    | _ => none

/-- Reads a declared type; blanks around it do not count. -/
def parse? (text : String) : Option DeclaredType :=
  parseChars? (trimBlank text.toList)

end DeclaredType

/-- Resolves a declared type, or does not know it. -/
abbrev TypeResolver := String → Option ResolvedType

/-- What the base names of SQL Server types resolve to. -/
def sqlServerBaseTypes : List (String × ResolvedType) := [
  ("bit", ⟨"bool", .boolean⟩),
  ("tinyint", ⟨"u8", .byte⟩),
  ("smallint", ⟨"i16", .int16⟩),
  ("int", ⟨"i32", .int32⟩), ("integer", ⟨"i32", .int32⟩),
  ("bigint", ⟨"i64", .int64⟩),
  ("real", ⟨"f32", .single⟩),
  ("float", ⟨"f64", .double⟩), ("double precision", ⟨"f64", .double⟩),
  ("decimal", ⟨"Decimal", .decimal⟩), ("numeric", ⟨"Decimal", .decimal⟩),
  ("money", ⟨"Decimal", .currency⟩), ("smallmoney", ⟨"Decimal", .currency⟩),
  ("char", ⟨"String", .ansiString⟩), ("varchar", ⟨"String", .ansiString⟩),
  ("text", ⟨"String", .ansiString⟩),
  ("nchar", ⟨"String", .string⟩), ("nvarchar", ⟨"String", .string⟩),
  ("ntext", ⟨"String", .string⟩), ("sysname", ⟨"String", .string⟩),
  ("date", ⟨"NaiveDate", .date⟩),
  ("datetime", ⟨"NaiveDateTime", .dateTime⟩), ("smalldatetime", ⟨"NaiveDateTime", .dateTime⟩),
  ("datetime2", ⟨"NaiveDateTime", .dateTime2⟩),
  ("datetimeoffset", ⟨"DateTime<FixedOffset>", .dateTimeOffset⟩),
  ("time", ⟨"NaiveTime", .time⟩),
  ("uniqueidentifier", ⟨"Uuid", .guid⟩),
  ("binary", ⟨"Vec<u8>", .binary⟩), ("varbinary", ⟨"Vec<u8>", .binary⟩),
  ("image", ⟨"Vec<u8>", .binary⟩), ("rowversion", ⟨"Vec<u8>", .binary⟩),
  ("timestamp", ⟨"Vec<u8>", .binary⟩),
  ("xml", ⟨"String", .xml⟩)]

/-- Types go by their base name; arguments make no difference. -/
def sqlServerTypes : TypeResolver := fun declared => do
  let type ← DeclaredType.parse? declared
  sqlServerBaseTypes.lookup type.base

end DataAccess

import DataAccess.Text.LetterCaseTable

/-!
Full case conversion of text. One character may become several, and a capital sigma that
ends a word becomes a final sigma.
-/
set_option autoImplicit false

namespace DataAccess.Text

private def image (runs : List CaseRun) (code : Nat) : List Char :=
  [Char.ofNat ((runs.findSome? fun run => run.image? code).getD code)]

/-- The uppercase form of one character. -/
def upperOf (c : Char) : List Char :=
  if c.toNat < 128 then [c.toUpper]
  else match uppercaseExpansions.lookup c.toNat with
    | some codes => codes.map Char.ofNat
    | none => image uppercaseRuns c.toNat

/-- The lowercase form of one character apart from its neighbours. -/
def lowerOf (c : Char) : List Char :=
  if c.toNat < 128 then [c.toLower]
  else if c.toNat = 0x130 then ['i', Char.ofNat 0x307]
  else image lowercaseRuns c.toNat

/-- A letter that has or is a case form. -/
def isCased (c : Char) : Bool :=
  if c.toNat < 128 then c.isAlpha else inRanges casedRanges c.toNat

/-- Whether the first character that matters for case is a cased letter. -/
def startsCased (text : List Char) : Bool :=
  match text.dropWhile fun c => inRanges caseIgnorableRanges c.toNat with
  | [] => false
  | c :: _ => isCased c

/-- `before` is the text already read, last character first. -/
def lowercaseAfter : (before : List Char) → List Char → List Char
  | _, [] => []
  | before, c :: rest =>
    (if c = 'Σ' then
      if startsCased before && !startsCased rest then ['ς'] else ['σ']
    else lowerOf c) ++ lowercaseAfter (c :: before) rest

/-- The lowercase form of a text. -/
def lowercase (text : List Char) : List Char :=
  lowercaseAfter [] text

/-- The uppercase form of a text. -/
def uppercase (text : List Char) : List Char :=
  text.flatMap upperOf

end DataAccess.Text

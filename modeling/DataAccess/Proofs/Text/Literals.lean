import DataAccess.Text.Quoted
import Mathlib.Algebra.Group.Nat.Defs

/-!
String literals are read back as the texts that they are written for. A literal is read from left
to right up to the quote that closes it. A character that is written with a backslash or as its
code point is read as itself, and so is every other one, so a reader is never led astray by what
a text holds or by what follows its literal.
-/
set_option autoImplicit false

namespace DataAccess.Text

/-- The character that one after a backslash stands for. -/
def escaped? (c : Char) : Option Char :=
  [('n', '\n'), ('r', '\r'), ('t', '\t'), ('0', '\x00'), ('\\', '\\'), ('"', '"'),
    ('\'', '\'')].lookup c

/-- The number that hexadecimal digits stand for. -/
def hexNumber? (digits : List Char) : Option Nat :=
  digits.foldlM (fun value c => (hexValue? c).map (16 * value + ·)) 0

/-- An ASCII character by its code point. -/
def asciiPoint? (digits : List Char) : Option Char := do
  let code ← hexNumber? digits
  if code < 128 then some (Char.ofNat code) else none

/-- A character by its code point in one to six digits; a surrogate is none. -/
def codePoint? (digits : List Char) : Option Char := do
  let code ← hexNumber? digits
  if digits ≠ [] ∧ digits.length ≤ 6 ∧ code.isValidChar then some (Char.ofNat code) else none

/-- What is being read of a literal behind its opening quote. -/
inductive LiteralState where
  | plain
  /-- After a backslash. -/
  | escape
  /-- The code point of an ASCII character in two digits. -/
  | ascii (digits : List Char)
  /-- Before the braces around a code point. -/
  | brace
  | code (digits : List Char)
  /-- After a backslash at the end of a line, which joins the next line without its indent. -/
  | continued

/-- What a character does to a literal that is being read. -/
inductive LiteralStep where
  | refused
  | closed
  | next (read : List Char) (state : LiteralState)

/-- The end of an escape. -/
def LiteralStep.ofChar? : Option Char → LiteralStep
  | some c => .next [c] .plain
  | none => .refused

/-- A character outside of escapes. -/
def LiteralStep.plain (c : Char) : LiteralStep :=
  if c = '"' then .closed
  else if c = '\\' then .next [] .escape
  else if c = '\r' then .refused
  else .next [c] .plain

def LiteralState.step : LiteralState → Char → LiteralStep
  | plain, c => .plain c
  | escape, c =>
    if c = 'x' then .next [] (.ascii [])
    else if c = 'u' then .next [] .brace
    else if c = '\n' then .next [] .continued
    else .ofChar? (escaped? c)
  | ascii [], c => .next [] (.ascii [c])
  | ascii digits, c => .ofChar? (asciiPoint? (digits ++ [c]))
  | brace, c => if c = '\x7b' then .next [] (.code []) else .refused
  | code digits, c =>
    if c = '\x7d' then .ofChar? (codePoint? digits)
    else if c = '_' ∧ digits ≠ [] then .next [] (.code digits)
    else .next [] (.code (digits ++ [c]))
  | continued, c => if c.isWhitespace then .next [] .continued else .plain c

/-- Puts characters before a text that is followed by something else. -/
def prepend (read : List Char) (result : List Char × List Char) : List Char × List Char :=
  (read ++ result.1, result.2)

/-- Reads a literal to its closing quote: the text that it stands for, and what follows it. -/
def LiteralState.read? : LiteralState → List Char → Option (List Char × List Char)
  | _, [] => none
  | state, c :: rest =>
    match state.step c with
    | .refused => none
    | .closed => some ([], rest)
    | .next read after => (after.read? rest).map (prepend read)

/-- Reads a literal with its opening quote. -/
def literal? : List Char → Option (List Char × List Char)
  | '"' :: rest => LiteralState.plain.read? rest
  | _ => none

section Digits

theorem hexDigit_ne :
    ∀ value < 16, hexDigit value ≠ '\x7d' ∧ hexDigit value ≠ '_' := by
  decide

theorem hexNumber?_hexDigits (value : Nat) : hexNumber? (hexDigits value) = some value := by
  fun_induction hexDigits value with
  | case1 value small =>
    have digit := hexValue?_hexDigit value small
    simp [hexNumber?, digit]
  | case2 value large ih =>
    have digit := hexValue?_hexDigit (value % 16) (by omega)
    unfold hexNumber? at ih ⊢
    rw [List.foldlM_append, ih]
    simp only [Option.bind_eq_bind, Option.bind_some, List.foldlM_cons, List.foldlM_nil, digit,
      Option.map_some, Option.pure_def, Option.some.injEq]
    omega

theorem hexDigits_ne_nil (value : Nat) : hexDigits value ≠ [] := by
  fun_induction hexDigits value with
  | case1 value small => simp
  | case2 value large ih => simp

theorem ne_of_mem_hexDigits (value : Nat) :
    ∀ c ∈ hexDigits value, c ≠ '\x7d' ∧ c ≠ '_' := by
  fun_induction hexDigits value with
  | case1 value small =>
    rw [List.forall_mem_singleton]
    exact hexDigit_ne value small
  | case2 value large ih =>
    rw [List.forall_mem_append, List.forall_mem_singleton]
    exact ⟨ih, hexDigit_ne (value % 16) (by omega)⟩

theorem length_hexDigits_le (value bound : Nat) (small : value < 16 ^ (bound + 1)) :
    (hexDigits value).length ≤ bound + 1 := by
  fun_induction hexDigits value generalizing bound with
  | case1 value single => simp
  | case2 value large ih =>
    cases bound with
    | zero => omega
    | succ bound =>
      have smaller : value / 16 < 16 ^ (bound + 1) := by
        rw [Nat.pow_succ] at small
        omega
      have shorter := ih bound smaller
      rw [List.length_append, List.length_singleton]
      omega

/-- A character is found by the digits of its code point. -/
theorem codePoint?_hexDigits (c : Char) : codePoint? (hexDigits c.toNat) = some c := by
  have small : c.toNat < 16 ^ (5 + 1) := by
    rcases c.valid with low | ⟨-, high⟩
    · exact Nat.lt_trans low (by decide)
    · exact Nat.lt_trans high (by decide)
  have digits : hexDigits c.toNat ≠ [] ∧ (hexDigits c.toNat).length ≤ 6 ∧ c.toNat.isValidChar :=
    ⟨hexDigits_ne_nil _, length_hexDigits_le _ 5 small, c.valid⟩
  unfold codePoint?
  rw [hexNumber?_hexDigits]
  simp only [Option.bind_eq_bind, Option.bind_some, digits, ne_eq, not_false_eq_true, and_self,
    ↓reduceIte, Char.ofNat_toNat]

end Digits

section Reading

variable (rest : List Char)

theorem read?_cons (state after : LiteralState) (c : Char) (read : List Char)
    (step : state.step c = .next read after) :
    state.read? (c :: rest) = (after.read? rest).map (prepend read) := by
  rw [LiteralState.read?, step]

/-- A character that only changes the state. -/
theorem read?_cons_silent (state after : LiteralState) (c : Char)
    (step : state.step c = .next [] after) : state.read? (c :: rest) = after.read? rest := by
  rw [read?_cons rest state after c [] step]
  exact Option.map_id'

theorem read?_digits (read digits : List Char)
    (inner : ∀ c ∈ digits, c ≠ '\x7d' ∧ c ≠ '_') :
    (LiteralState.code read).read? (digits ++ rest) =
      (LiteralState.code (read ++ digits)).read? rest := by
  induction digits generalizing read with
  | nil => rw [List.nil_append, List.append_nil]
  | cons c digits ih =>
    obtain ⟨notClosing, notUnderscore⟩ := inner c List.mem_cons_self
    have step : (LiteralState.code read).step c = .next [] (.code (read ++ [c])) := by
      simp only [LiteralState.step, notClosing, notUnderscore, false_and, ↓reduceIte]
    have later := ih (read ++ [c]) fun d member => inner d (List.mem_cons_of_mem c member)
    rw [List.cons_append, read?_cons_silent _ _ _ c step, later, List.append_assoc,
      List.singleton_append]

/-- A backslash and a letter. -/
theorem read?_letter (letter c : Char)
    (step : LiteralState.escape.step letter = .next [c] .plain) :
    LiteralState.plain.read? ('\\' :: letter :: rest) =
      (LiteralState.plain.read? rest).map (prepend [c]) := by
  rw [read?_cons_silent _ .plain .escape '\\' rfl, read?_cons _ _ _ letter _ step]

theorem read?_codeEscape (c : Char) :
    LiteralState.plain.read? (codeEscape c ++ rest) =
      (LiteralState.plain.read? rest).map (prepend [c]) := by
  have chars : codeEscape c ++ rest =
      '\\' :: 'u' :: '\x7b' :: (hexDigits c.toNat ++ '\x7d' :: rest) := by
    simp [codeEscape]
  have closing : (LiteralState.code (hexDigits c.toNat)).step '\x7d' = .next [c] .plain := by
    simp only [LiteralState.step, ↓reduceIte, codePoint?_hexDigits, LiteralStep.ofChar?]
  rw [chars, read?_cons_silent _ .plain .escape '\\' rfl,
    read?_cons_silent _ .escape .brace 'u' rfl, read?_cons_silent _ .brace (.code []) '\x7b' rfl,
    read?_digits _ [] _ (ne_of_mem_hexDigits _), List.nil_append, read?_cons _ _ _ _ _ closing]

/-- However a character is written, it is read as itself. -/
theorem read?_escapeChar (c : Char) :
    LiteralState.plain.read? (escapeChar c ++ rest) =
      (LiteralState.plain.read? rest).map (prepend [c]) := by
  unfold escapeChar
  by_cases null : c = '\x00'
  · subst null
    exact read?_letter rest '0' '\x00' rfl
  by_cases tab : c = '\t'
  · subst tab
    exact read?_letter rest 't' '\t' rfl
  by_cases carriageReturn : c = '\r'
  · subst carriageReturn
    exact read?_letter rest 'r' '\r' rfl
  by_cases newline : c = '\n'
  · subst newline
    exact read?_letter rest 'n' '\n' rfl
  by_cases quote : c = '"'
  · subst quote
    exact read?_letter rest '"' '"' rfl
  by_cases backslash : c = '\\'
  · subst backslash
    exact read?_letter rest '\\' '\\' rfl
  simp only [null, tab, carriageReturn, newline, quote, backslash, ↓reduceIte, decide_false,
    Bool.or_self, Bool.false_eq_true]
  by_cases coded : needsCode c = true
  · simpa only [coded, ↓reduceIte] using read?_codeEscape rest c
  · have step : LiteralState.plain.step c = .next [c] .plain := by
      simp only [LiteralState.step, LiteralStep.plain, quote, backslash, carriageReturn,
        ↓reduceIte]
    rw [if_neg coded]
    exact read?_cons rest _ _ c _ step

theorem read?_escaped (text : List Char) :
    LiteralState.plain.read? (text.flatMap escapeChar ++ '"' :: rest) = some (text, rest) := by
  induction text with
  | nil => rfl
  | cons c text ih =>
    rw [List.flatMap_cons, List.append_assoc, read?_escapeChar, ih]
    rfl

/-- A text is read back from its literal, whatever follows it. -/
theorem literal?_quoted (text : String) :
    literal? ((quoted text).toList ++ rest) = some (text.toList, rest) := by
  have chars : (quoted text).toList ++ rest =
      '"' :: (text.toList.flatMap escapeChar ++ '"' :: rest) := by
    simp [quoted]
  rw [chars]
  exact read?_escaped rest text.toList

/-- A quote behind a backslash does not close the literal. -/
example : literal? "\"a\\\"\\u\x7be9\x7d\");".toList = some ("a\"é".toList, ");".toList) := by
  decide +kernel

end Reading

end DataAccess.Text

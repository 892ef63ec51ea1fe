import DataAccess.Document.Json.Printer
import DataAccess.Document.Json.Token
import Mathlib.Data.List.Forall2

/-!
The tokens of parts of a JSON text. A word is only known to be over when something follows that is
no part of it, so parts are put together at borders, which are made of blanks and punctuation.
-/
set_option autoImplicit false

namespace DataAccess.Json

open Text (hexDigit hexValue? hexValue?_hexDigit)

/-- What has been read amounts to some tokens, in reverse, whatever else than a word follows. -/
inductive Lexed.Holds : Lexed → List Token → Prop where
  | between (tokens : List Token) : Holds (tokens, .none) tokens
  | word (tokens : List Token) (letters : List Char) (token : Token)
      (known : wordToken? (String.ofList letters.reverse) = some token) :
      Holds (tokens, .word letters) (token :: tokens)

/-- A text that has some tokens where one may begin. -/
def Takes (text : List Char) (tokens : List Token) : Prop :=
  ∀ earlier, ∃ after, text.foldlM Lexed.step? (earlier, .none) = some after ∧
    after.Holds (tokens.reverse ++ earlier)

/-- A text that has some tokens wherever it follows others. -/
def Follows (text : List Char) (tokens : List Token) : Prop :=
  ∀ lexed earlier, Lexed.Holds lexed earlier →
    ∃ after, text.foldlM Lexed.step? lexed = some after ∧ after.Holds (tokens.reverse ++ earlier)

/-- A text that follows others and behind which a token may begin. -/
def Divides (text : List Char) (tokens : List Token) : Prop :=
  ∀ lexed earlier, Lexed.Holds lexed earlier →
    text.foldlM Lexed.step? lexed = some (tokens.reverse ++ earlier, .none)

section Borders

theorem Lexed.Holds.step {lexed : Lexed} {tokens made : List Token} (holds : lexed.Holds tokens)
    (c : Char) (noWord : isWordChar c = false) (begins : begin? c = some (made, .none)) :
    lexed.step? c = some (made.reverse ++ tokens, .none) := by
  cases holds with
  | between => simp [Lexed.step?, Json.step?, begins]
  | word tokens letters token known =>
    simp [Lexed.step?, Json.step?, noWord, known, begins]

theorem Follows.takes {text : List Char} {tokens : List Token} (follows : Follows text tokens) :
    Takes text tokens :=
  fun earlier => follows _ earlier (.between earlier)

theorem Follows.append {first second : List Char} {tokens others : List Token}
    (follows : Follows first tokens) (again : Follows second others) :
    Follows (first ++ second) (tokens ++ others) := by
  intro lexed earlier holds
  obtain ⟨between, read, ended⟩ := follows lexed earlier holds
  obtain ⟨after, behind, whole⟩ := again between _ ended
  refine ⟨after, ?_, by simpa using whole⟩
  rw [List.foldlM_append, read, Option.bind_eq_bind, Option.bind_some, behind]

theorem Takes.append_follows {first second : List Char} {tokens others : List Token}
    (takes : Takes first tokens) (later : Follows second others) :
    Takes (first ++ second) (tokens ++ others) := by
  intro earlier
  obtain ⟨between, read, ended⟩ := takes earlier
  obtain ⟨after, behind, whole⟩ := later between _ ended
  refine ⟨after, ?_, by simpa using whole⟩
  rw [List.foldlM_append, read, Option.bind_eq_bind, Option.bind_some, behind]

theorem Divides.follows {text : List Char} {tokens : List Token} (divides : Divides text tokens) :
    Follows text tokens :=
  fun lexed earlier holds => ⟨_, divides lexed earlier holds, .between _⟩

theorem Divides.append_takes {first second : List Char} {tokens others : List Token}
    (divides : Divides first tokens) (takes : Takes second others) :
    Follows (first ++ second) (tokens ++ others) := by
  intro lexed earlier holds
  obtain ⟨after, behind, whole⟩ := takes (tokens.reverse ++ earlier)
  refine ⟨after, ?_, by simpa using whole⟩
  rw [List.foldlM_append, divides lexed earlier holds, Option.bind_eq_bind, Option.bind_some,
    behind]

theorem Divides.append {first second : List Char} {tokens others : List Token}
    (divides : Divides first tokens) (again : Divides second others) :
    Divides (first ++ second) (tokens ++ others) := by
  intro lexed earlier holds
  rw [List.foldlM_append, divides lexed earlier holds, Option.bind_eq_bind, Option.bind_some,
    again _ _ (.between _)]
  simp

theorem divides_punctuation (c : Char) (token : Token) (known : punctuation? c = some token) :
    Divides [c] [token] := by
  have listed : c ∈ ['[', ']', '\x7b', '\x7d', ',', ':'] := by
    by_contra other
    simp only [List.mem_cons, List.not_mem_nil, or_false, not_or] at other
    simp [punctuation?, other] at known
  have apart : ∀ d ∈ ['[', ']', '\x7b', '\x7d', ',', ':'],
      isWordChar d = false ∧ isSpace d = false ∧ d ≠ '"' := by decide
  obtain ⟨noWord, noBlank, noQuote⟩ := apart c listed
  have begins : begin? c = some ([token], .none) := by
    simp [begin?, noWord, noBlank, noQuote, known]
  intro lexed earlier holds
  rw [List.foldlM_cons, holds.step c noWord begins]
  rfl

theorem isWordChar_of_isSpace (c : Char) (space : isSpace c = true) : isWordChar c = false := by
  have apart : ∀ d ∈ [' ', '\t', '\n', '\r'], isWordChar d = false := by decide
  exact apart c (by simpa [isSpace, or_assoc] using space)

theorem divides_space (c : Char) (space : isSpace c = true) : Divides [c] [] := by
  have begins : begin? c = some ([], .none) := by simp [begin?, space]
  intro lexed earlier holds
  rw [List.foldlM_cons, holds.step c (isWordChar_of_isSpace c space) begins]
  rfl

/-- Blanks behind a border belong to it. -/
theorem Divides.append_spaces {text : List Char} {tokens : List Token} (divides : Divides text tokens)
    (spaces : List Char) (blank : ∀ c ∈ spaces, isSpace c = true) :
    Divides (text ++ spaces) tokens := by
  induction spaces generalizing text with
  | nil => simpa using divides
  | cons c rest ih =>
    obtain ⟨first, others⟩ := List.forall_mem_cons.1 blank
    have longer := divides.append (divides_space c first)
    rw [List.append_nil] at longer
    simpa using ih longer others

end Borders

section Words

theorem begin?_of_isWordChar (c : Char) (letter : isWordChar c = true) :
    begin? c = some ([], .word [c]) := by
  have noBlank : isSpace c = false := by
    cases space : isSpace c with
    | false => rfl
    | true =>
      rw [isWordChar_of_isSpace c space] at letter
      cases letter
  have noQuote : c ≠ '"' := by
    rintro rfl
    revert letter
    decide
  simp [begin?, letter, noBlank, noQuote]

/-- A word is one token. -/
theorem takes_word (word : String) (token : Token) (filled : word.toList ≠ [])
    (letters : ∀ c ∈ word.toList, isWordChar c = true) (known : wordToken? word = some token) :
    Takes word.toList [token] := by
  have goesOn : ∀ text : List Char, (∀ c ∈ text, isWordChar c = true) → ∀ earlier read,
      text.foldlM Lexed.step? (earlier, .word read) =
        some (earlier, .word (text.reverse ++ read)) := by
    intro text letters earlier read
    induction text generalizing read with
    | nil => rfl
    | cons c rest ih =>
      obtain ⟨letter, others⟩ := List.forall_mem_cons.1 letters
      have next : Lexed.step? (earlier, .word read) c = some (earlier, .word (c :: read)) := by
        simp [Lexed.step?, Json.step?, letter]
      rw [List.foldlM_cons, next, Option.bind_eq_bind, Option.bind_some, ih others]
      simp
  intro earlier
  obtain ⟨c, rest, whole⟩ := List.exists_cons_of_ne_nil filled
  rw [whole] at letters ⊢
  obtain ⟨letter, others⟩ := List.forall_mem_cons.1 letters
  have first : Lexed.step? (earlier, .none) c = some (earlier, .word [c]) := by
    simp [Lexed.step?, Json.step?, begin?_of_isWordChar c letter]
  refine ⟨(earlier, .word (rest.reverse ++ [c])), ?_, ?_⟩
  · rw [List.foldlM_cons, first, Option.bind_eq_bind, Option.bind_some, goesOn rest others]
  · refine .word earlier _ token ?_
    rw [List.reverse_append, List.reverse_reverse, List.reverse_singleton, List.singleton_append,
      ← whole, String.ofList_toList]
    exact known

end Words

section Quoted

/-- What a character is read as where it stands in quotes. -/
def quotedPart (c : Char) : TextPart :=
  if c.toNat < 0x20 && c ∉ ['\x08', '\x0c', '\n', '\r', '\t'] then .unit c.toNat else .char c

/-- A character in quotes is read as a part of the text. -/
theorem foldlM_escapeChar (c : Char) (earlier : List Token) (read : List TextPart) :
    (escapeChar c).foldlM Lexed.step? (earlier, .text read) =
      some (earlier, .text (quotedPart c :: read)) := by
  have short : ∀ d ∈ ['"', '\\', '\x08', '\x0c', '\n', '\r', '\t'],
      (escapeChar d).foldlM Lexed.step? (earlier, .text read) =
        some (earlier, .text (quotedPart d :: read)) := by
    simp only [List.forall_mem_cons, List.not_mem_nil, false_implies, implies_true, and_true]
    exact ⟨rfl, rfl, rfl, rfl, rfl, rfl, rfl⟩
  by_cases listed : c ∈ ['"', '\\', '\x08', '\x0c', '\n', '\r', '\t']
  · exact short c listed
  · simp only [List.mem_cons, List.not_mem_nil, or_false, not_or] at listed
    by_cases control : c.toNat < 0x20
    · have code : escapeChar c = ['\\', 'u', '0', '0', hexDigit (c.toNat / 16),
          hexDigit (c.toNat % 16)] := by
        simp [escapeChar, listed, control]
      have high := hexValue?_hexDigit (c.toNat / 16) (by omega)
      have low := hexValue?_hexDigit (c.toNat % 16) (by omega)
      have zero : hexValue? '0' = some 0 := rfl
      have whole := Nat.div_add_mod c.toNat 16
      simp [code, Lexed.step?, Json.step?, zero, high, low, whole, quotedPart, control, listed]
    · have itself : escapeChar c = [c] := by simp [escapeChar, listed, control]
      simp [itself, Lexed.step?, Json.step?, quotedPart, control, listed]

theorem foldlM_flatMap_escapeChar (text : List Char) (earlier : List Token)
    (read : List TextPart) :
    (text.flatMap escapeChar).foldlM Lexed.step? (earlier, .text read) =
      some (earlier, .text ((text.map quotedPart).reverse ++ read)) := by
  induction text generalizing read with
  | nil => rfl
  | cons c rest ih =>
    rw [List.flatMap_cons, List.foldlM_append, foldlM_escapeChar, Option.bind_eq_bind,
      Option.bind_some, ih]
    simp

theorem characters?_unit (value : Nat) (small : value < 0x20) (rest : List TextPart) :
    characters? (.unit value :: rest) = (characters? rest).map (Char.ofNat value :: ·) := by
  have noLead : isLeadUnit value = false := by
    simp only [isLeadUnit, Bool.and_eq_false_iff, decide_eq_false_iff_not]
    omega
  have noTrail : isTrailUnit value = false := by
    simp only [isTrailUnit, Bool.and_eq_false_iff, decide_eq_false_iff_not]
    omega
  cases rest with
  | nil => simp [characters?, noLead, noTrail]
  | cons part others => cases part <;> simp [characters?, noLead, noTrail]

/-- A text in quotes has the characters that were written. -/
theorem characters?_map_quotedPart (text : List Char) :
    characters? (text.map quotedPart) = some text := by
  induction text with
  | nil => rfl
  | cons c rest ih =>
    rw [List.map_cons, quotedPart]
    split
    · rename_i control
      have small : c.toNat < 0x20 := by
        rw [Bool.and_eq_true, decide_eq_true_iff] at control
        exact control.1
      rw [characters?_unit c.toNat small, ih, Option.map_some, Char.ofNat_toNat]
    · rw [characters?, ih, Option.map_some]

theorem takes_quoted (text : String) : Takes (quoted text).toList [.text (some text)] := by
  intro earlier
  have opening : Lexed.step? (earlier, .none) '"' = some (earlier, .text []) := rfl
  have closing : Lexed.step? (earlier, .text (text.toList.map quotedPart).reverse) '"' =
      some (.text (some text) :: earlier, .none) := by
    simp [Lexed.step?, Json.step?, closeText, characters?_map_quotedPart]
  refine ⟨_, ?_, .between _⟩
  rw [quoted, String.toList_ofList, List.cons_append, List.foldlM_cons, opening,
    Option.bind_eq_bind, Option.bind_some, List.foldlM_append, foldlM_flatMap_escapeChar,
    List.append_nil, Option.bind_eq_bind, Option.bind_some, List.foldlM_cons, closing]
  rfl

end Quoted

theorem Lexed.Holds.finish {lexed : Lexed} {tokens : List Token} (holds : lexed.Holds tokens) :
    lexed.finish? = some tokens.reverse := by
  cases holds with
  | between => rfl
  | word tokens letters token known => simp [Lexed.finish?, known]

theorem tokens?_of_takes (text : String) (tokens : List Token)
    (takes : Takes text.toList tokens) : tokens? text = some tokens := by
  obtain ⟨lexed, read, holds⟩ := takes []
  rw [tokens?, read, Option.bind_eq_bind, Option.bind_some, holds.finish, List.append_nil,
    List.reverse_reverse]

end DataAccess.Json

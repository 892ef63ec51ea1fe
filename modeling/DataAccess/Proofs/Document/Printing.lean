import DataAccess.Document.Json.Reader
import DataAccess.Proofs.Document.Tokens
import Mathlib.Data.List.TakeWhile

/-!
Documents that are printed as JSON are read back as they were. A document in a list or a record
is read like one that stands alone, with what is open around it left as it is.
-/
set_option autoImplicit false

namespace DataAccess.Json

/-- Documents that JSON has a notation for. -/
inductive Printable : Document → Prop where
  | null : Printable .null
  | flag (value : Bool) : Printable (.flag value)
  | number (literal : String) (valid : isNumber literal.toList = true)
      (letters : ∀ c ∈ literal.toList, isWordChar c = true) : Printable (.number literal)
  | text (value : String) : Printable (.text value)
  | list (items : List Document) (each : ∀ item ∈ items, Printable item) : Printable (.list items)
  | record (entries : List (String × Document)) (each : ∀ entry ∈ entries, Printable entry.2) :
      Printable (.record entries)

/-- Tokens that are read as a document wherever a value may stand. -/
def Reads (tokens : List Token) (document : Document) : Prop :=
  ∀ around, tokens.foldlM Reading.step? (.value around) = some (.complete document around)

/-- A text that is read as a document. -/
def Carries (text : String) (document : Document) : Prop :=
  ∃ tokens, Takes text.toList tokens ∧ Reads tokens document

section Blocks

theorem blank_of_mem_indentation (depth : Nat) :
    ∀ c ∈ (indentation depth).toList, isSpace c = true := by
  intro c member
  rw [indentation, String.toList_ofList] at member
  rw [List.eq_of_mem_replicate member]
  rfl

/-- Blocks between commas, behind a border. -/
theorem follows_blocks (depth : Nat) (border : List Char) (opened : List Token)
    (divides : Divides border opened) (blocks : List String) (tokens : List (List Token))
    (filled : blocks ≠ [])
    (each : List.Forall₂ (fun block tokens => Takes block.toList tokens) blocks tokens) :
    Follows (border ++ (",\n".intercalate (blocks.map (indentation depth ++ ·))).toList)
      (opened ++ [Token.comma].intercalate tokens) := by
  induction each generalizing border opened with
  | nil => contradiction
  | @cons block own blocks tokens takes each ih =>
    have begun := (divides.append_spaces _ (blank_of_mem_indentation depth)).append_takes takes
    cases each with
    | nil => simpa using begun
    | @cons next nextTokens blocks tokens nextTakes each =>
      have comma : Divides [',', '\n'] [.comma] :=
        (divides_punctuation ',' _ rfl).append_spaces ['\n'] (by decide)
      have whole := begun.append (ih [',', '\n'] [.comma] comma (List.cons_ne_nil _ _))
      have separator : ",\n".toList = [',', '\n'] := rfl
      rw [List.map_cons, List.map_cons, String.intercalate_cons_cons, List.intercalate_cons_cons]
      simpa [separator] using whole

/-- Blocks between brackets. -/
theorem takes_bracketed (opening closing : Char) (first last : Token) (depth : Nat)
    (opens : punctuation? opening = some first) (closes : punctuation? closing = some last)
    (blocks : List String) (tokens : List (List Token))
    (each : List.Forall₂ (fun block tokens => Takes block.toList tokens) blocks tokens) :
    Takes (bracketed (String.singleton opening) (String.singleton closing) depth blocks).toList
      (first :: [Token.comma].intercalate tokens ++ [last]) := by
  have begun := divides_punctuation opening first opens
  have ended := divides_punctuation closing last closes
  cases each with
  | nil =>
    have whole := (begun.append ended).follows.takes
    simpa [bracketed] using whole
  | @cons block own blocks tokens takes each =>
    have border := begun.append_spaces ['\n'] (by decide)
    have inner := follows_blocks (depth + 1) _ _ border (block :: blocks) (own :: tokens)
      (List.cons_ne_nil _ _) (.cons takes each)
    have space : Divides ('\n' :: (indentation depth).toList) [] :=
      (divides_space '\n' rfl).append_spaces _ (blank_of_mem_indentation depth)
    have whole := (inner.append (space.append ended).follows).takes
    have newline : "\n".toList = ['\n'] := rfl
    simpa [bracketed, newline] using whole

end Blocks

section Readings

/-- A list does not end where an item begins. -/
theorem Reads.foldlM_itemOrEnd {tokens : List Token} {document : Document}
    (reads : Reads tokens document) (rest : List Token) (around : List Frame) :
    (tokens ++ rest).foldlM Reading.step? (.itemOrEnd around) =
      (tokens ++ rest).foldlM Reading.step? (.value (.list [] :: around)) := by
  cases tokens with
  | nil => cases reads []
  | cons token others =>
    cases token with
    | closeList => cases reads []
    | _ => rfl

theorem exists_intercalate_cons (first : List Token) (tokens : List (List Token)) :
    ∃ rest, [Token.comma].intercalate (first :: tokens) = first ++ rest := by
  cases tokens with
  | nil => exact ⟨[], by simp⟩
  | cons next others =>
    exact ⟨_, by rw [List.intercalate_cons_cons, List.append_assoc]⟩

/-- Parts between commas are read one after another, where every state in which a part may begin,
or has ended, is told by what was read before it. -/
theorem foldlM_parts {α β : Type} (begun : List β → Reading) (ended : α → List β → Reading)
    (closed : List β → Reading) (own : α → β) (closing : Token)
    (comma : ∀ part read, Reading.step? (ended part read) .comma = some (begun (own part :: read)))
    (close : ∀ part read, Reading.step? (ended part read) closing =
      some (closed (own part :: read)))
    (parts : List α) (tokens : List (List Token)) (filled : parts ≠ [])
    (each : List.Forall₂ (fun tokens part => ∀ read,
      tokens.foldlM Reading.step? (begun read) = some (ended part read)) tokens parts)
    (read : List β) :
    ([Token.comma].intercalate tokens ++ [closing]).foldlM Reading.step? (begun read) =
      some (closed ((parts.map own).reverse ++ read)) := by
  induction each generalizing read with
  | nil => contradiction
  | @cons first part tokens parts reads each ih =>
    cases each with
    | nil =>
      rw [List.intercalate_singleton, List.foldlM_append, reads, Option.bind_eq_bind,
        Option.bind_some, List.foldlM_cons, close]
      rfl
    | @cons next other tokens parts readsNext each =>
      have later := ih (List.cons_ne_nil _ _) (own part :: read)
      rw [List.intercalate_cons_cons, List.append_assoc, List.append_assoc, List.foldlM_append,
        reads, Option.bind_eq_bind, Option.bind_some, List.singleton_append, List.foldlM_cons,
        comma, Option.bind_eq_bind, Option.bind_some, later]
      simp

theorem reads_list (items : List Document) (tokens : List (List Token))
    (each : List.Forall₂ Reads tokens items) :
    Reads (.openList :: [Token.comma].intercalate tokens ++ [.closeList]) (.list items) := by
  intro around
  rw [List.cons_append, List.foldlM_cons]
  cases each with
  | nil => rfl
  | @cons own item tokens items reads each =>
    have whole := foldlM_parts (fun read => .value (.list read :: around))
      (fun item read => .complete item (.list read :: around))
      (fun read => .complete (.list read.reverse) around) id .closeList (fun _ _ => rfl)
      (fun _ _ => rfl) (item :: items) (own :: tokens) (List.cons_ne_nil _ _)
      (List.Forall₂.imp (fun _ _ reads read => reads _) (.cons reads each)) []
    rw [List.append_nil, List.reverse_reverse, List.map_id] at whole
    obtain ⟨rest, cut⟩ := exists_intercalate_cons own tokens
    rw [cut, List.append_assoc] at whole ⊢
    exact (reads.foldlM_itemOrEnd _ around).trans whole

/-- Tokens that are read as an entry of a record. -/
def ReadsEntry (tokens : List Token) (entry : String × Document) : Prop :=
  ∃ own, tokens = .text (some entry.1) :: .colon :: own ∧ Reads own entry.2

theorem ReadsEntry.foldlM_key {tokens : List Token} {entry : String × Document}
    (reads : ReadsEntry tokens entry) (read : List KeyedItem) (around : List Frame) :
    tokens.foldlM Reading.step? (.key read around) =
      some (.complete entry.2 (.entry read (some entry.1) :: around)) := by
  obtain ⟨own, rfl, value⟩ := reads
  exact value _

/-- Entries that are read with their keys make the record that they were written for. -/
theorem recordOf_map (entries : List (String × Document)) :
    recordOf (entries.map fun entry => (some entry.1, entry.2)) = .record entries := by
  have each : (entries.map fun entry => (some entry.1, entry.2)).mapM
      (fun entry : KeyedItem => entry.1.map fun key => (key, entry.2)) = some entries := by
    induction entries with
    | nil => rfl
    | cons entry rest ih => simp [ih]
  simp only [recordOf, each]

theorem reads_record (entries : List (String × Document)) (tokens : List (List Token))
    (each : List.Forall₂ ReadsEntry tokens entries) :
    Reads (.openRecord :: [Token.comma].intercalate tokens ++ [.closeRecord])
      (.record entries) := by
  intro around
  rw [List.cons_append, List.foldlM_cons]
  cases each with
  | nil => rfl
  | @cons own entry tokens entries reads each =>
    have whole := foldlM_parts (fun read => .key read around)
      (fun entry read => .complete entry.2 (.entry read (some entry.1) :: around))
      (fun read => .complete (recordOf read.reverse) around)
      (fun entry => (some entry.1, entry.2)) .closeRecord (fun _ _ => rfl) (fun _ _ => rfl)
      (entry :: entries) (own :: tokens) (List.cons_ne_nil _ _)
      (List.Forall₂.imp (fun _ _ reads read => reads.foldlM_key read around)
        (.cons reads each)) []
    rw [List.append_nil, List.reverse_reverse, recordOf_map] at whole
    obtain ⟨rest, cut⟩ := exists_intercalate_cons own tokens
    obtain ⟨value, rfl, -⟩ := reads
    rw [cut, List.append_assoc] at whole ⊢
    exact whole

end Readings

section Documents

theorem renderItems_eq (depth : Nat) (items : List Document) :
    renderItems depth items = items.map (render depth) := by
  induction items with
  | nil => rfl
  | cons item rest ih => rw [renderItems, ih, List.map_cons]

theorem renderEntries_eq (depth : Nat) (entries : List (String × Document)) :
    renderEntries depth entries =
      entries.map fun entry => quoted entry.1 ++ ": " ++ render depth entry.2 := by
  induction entries with
  | nil => rfl
  | cons entry rest ih => rw [renderEntries, ih, List.map_cons]

theorem carries_word (word : String) (document : Document) (filled : word.toList ≠ [])
    (letters : ∀ c ∈ word.toList, isWordChar c = true)
    (known : wordToken? word = some (.scalar document)) : Carries word document :=
  ⟨[.scalar document], takes_word word _ filled letters known, fun _ => rfl⟩

theorem carries_number (literal : String) (valid : isNumber literal.toList = true)
    (letters : ∀ c ∈ literal.toList, isWordChar c = true) :
    Carries literal (.number literal) := by
  have filled : literal.toList ≠ [] := by
    intro empty
    rw [empty] at valid
    revert valid
    decide
  have other : ∀ word ∈ ["null", "true", "false"], literal ≠ word := by
    rintro word listed rfl
    have noNumber : ∀ word ∈ ["null", "true", "false"], isNumber word.toList = false := by decide
    rw [noNumber literal listed] at valid
    cases valid
  have known : wordToken? literal = some (.scalar (.number literal)) := by
    simp only [List.mem_cons, List.not_mem_nil, or_false, forall_eq_or_imp, forall_eq] at other
    simp [wordToken?, other, valid]
  exact carries_word literal _ filled letters known

/-- The tokens of each block, where every block has some that are read as its part. -/
theorem exists_tokens {α : Type} (block : α → String) (Part : List Token → α → Prop)
    (parts : List α)
    (each : ∀ part ∈ parts, ∃ tokens, Takes (block part).toList tokens ∧ Part tokens part) :
    ∃ tokens, List.Forall₂ (fun block tokens => Takes block.toList tokens) (parts.map block) tokens ∧
      List.Forall₂ Part tokens parts := by
  induction parts with
  | nil => exact ⟨[], .nil, .nil⟩
  | cons part rest ih =>
    obtain ⟨⟨own, takes, reads⟩, others⟩ := List.forall_mem_cons.1 each
    obtain ⟨tokens, takesRest, readsRest⟩ := ih others
    exact ⟨own :: tokens, .cons takes takesRest, .cons reads readsRest⟩

theorem carries_list (depth : Nat) (items : List Document)
    (each : ∀ item ∈ items, Carries (render (depth + 1) item) item) :
    Carries (render depth (.list items)) (.list items) := by
  obtain ⟨tokens, takes, reads⟩ := exists_tokens (render (depth + 1)) Reads items each
  refine ⟨_, ?_, reads_list items tokens reads⟩
  rw [render, renderItems_eq]
  exact takes_bracketed '[' ']' _ _ depth rfl rfl _ tokens takes

theorem takes_entry (key : String) (value : String) (own : List Token)
    (takes : Takes value.toList own) :
    Takes (quoted key ++ ": " ++ value).toList (.text (some key) :: .colon :: own) := by
  have colon : Divides [':', ' '] [.colon] :=
    (divides_punctuation ':' _ rfl).append_spaces [' '] (by decide)
  have text : ": ".toList = [':', ' '] := rfl
  have whole := (takes_quoted key).append_follows (colon.append_takes takes)
  simpa [text] using whole

theorem carries_record (depth : Nat) (entries : List (String × Document))
    (each : ∀ entry ∈ entries, Carries (render (depth + 1) entry.2) entry.2) :
    Carries (render depth (.record entries)) (.record entries) := by
  obtain ⟨tokens, takes, reads⟩ := exists_tokens
    (fun entry => quoted entry.1 ++ ": " ++ render (depth + 1) entry.2) ReadsEntry entries
    fun entry member => by
      obtain ⟨own, takes, reads⟩ := each entry member
      exact ⟨_, takes_entry entry.1 _ own takes, own, rfl, reads⟩
  refine ⟨_, ?_, reads_record entries tokens reads⟩
  rw [render, renderEntries_eq]
  exact takes_bracketed '\x7b' '\x7d' _ _ depth rfl rfl _ tokens takes

theorem carries_render {document : Document} (printable : Printable document) :
    ∀ depth, Carries (render depth document) document := by
  induction printable with
  | null =>
    intro depth
    exact carries_word "null" .null (by decide) (by decide) rfl
  | flag value =>
    intro depth
    cases value with
    | false => exact carries_word "false" (.flag false) (by decide) (by decide) rfl
    | true => exact carries_word "true" (.flag true) (by decide) (by decide) rfl
  | number literal valid letters =>
    intro depth
    exact carries_number literal valid letters
  | text value =>
    intro depth
    exact ⟨_, takes_quoted value, fun _ => rfl⟩
  | list items each ih =>
    intro depth
    exact carries_list depth items fun item member => ih item member (depth + 1)
  | record entries each ih =>
    intro depth
    exact carries_record depth entries fun entry member => ih entry member (depth + 1)

end Documents

section Numbers

theorem head?_toDigits_ne_zero (value : Nat) (positive : value ≠ 0) :
    (Nat.toDigits 10 value).head? ≠ some '0' := by
  induction value using Nat.strongRecOn with
  | ind value ih =>
    by_cases small : value < 10
    · have each : ∀ digit : Fin 10, digit.val ≠ 0 → some digit.val.digitChar ≠ some '0' := by
        decide
      rw [Nat.toDigits_of_lt_base small]
      exact each ⟨value, small⟩ positive
    · have filled : Nat.toDigits 10 (value / 10) ≠ [] :=
        List.ne_nil_of_length_pos Nat.length_toDigits_pos
      rw [Nat.toDigits_of_base_le (by decide) (by omega), List.head?_append_of_ne_nil _ filled]
      exact ih (value / 10) (by omega) (by omega)

theorem isWhole_toDigits (value : Nat) : isWhole (Nat.toDigits 10 value) = true := by
  have digits : ∀ c ∈ Nat.toDigits 10 value, c.isDigit = true :=
    fun c member => Nat.isDigit_of_mem_toDigits (by decide) (by decide) member
  have filled : Nat.toDigits 10 value ≠ [] := List.ne_nil_of_length_pos Nat.length_toDigits_pos
  by_cases positive : value = 0
  · subst positive
    decide
  · have first := head?_toDigits_ne_zero value positive
    simp [isWhole, Text.isDigits, filled, first, List.all_eq_true.2 digits]

theorem isNumber_of_isWhole (text : List Char) (whole : isWhole text = true) :
    isNumber text = true ∧ isNumber ('-' :: text) = true := by
  have digits : ∀ c ∈ text, c.isDigit = true := by
    simp only [isWhole, Text.isDigits, Bool.and_eq_true, List.all_eq_true] at whole
    exact whole.1.2
  have taken : text.takeWhile Char.isDigit = text := List.takeWhile_eq_self_iff.2 digits
  have left : text.dropWhile Char.isDigit = [] := List.dropWhile_eq_nil_iff.2 digits
  have unsigned : ∀ rest, text ≠ '-' :: rest := by
    rintro rest rfl
    exact absurd (digits '-' List.mem_cons_self) (by decide)
  constructor
  · rw [isNumber]
    · simp [taken, left, whole, isFraction, Text.isExponent]
    · exact unsigned
  · simp [isNumber, taken, left, whole, isFraction, Text.isExponent]

/-- Whole numbers are written as JSON has them. -/
theorem printable_toString (value : Int) : Printable (.number (toString value)) := by
  have letters : ∀ digits : Nat, ∀ c ∈ Nat.toDigits 10 digits, isWordChar c = true := by
    intro digits c member
    have digit := Nat.isDigit_of_mem_toDigits (by decide) (by decide) member
    simp [isWordChar, Char.isAlphanum, digit]
  have valid := fun digits => isNumber_of_isWhole _ (isWhole_toDigits digits)
  rw [Int.toString_eq_repr, Int.repr_eq_if]
  split
  · refine .number _ ?_ ?_
    · rw [Nat.toList_repr]
      exact (valid _).1
    · rw [Nat.toList_repr]
      exact letters _
  · refine .number _ ?_ ?_
    · rw [String.toList_append, Nat.toList_repr]
      exact (valid _).2
    · rw [String.toList_append, Nat.toList_repr]
      exact List.forall_mem_append.2 ⟨by decide, letters _⟩

end Numbers

/-- What is printed is read back. -/
theorem read?_print (document : Document) (printable : Printable document) :
    read? (print document) = some document := by
  obtain ⟨tokens, takes, reads⟩ := carries_render printable 0
  have whole := reads []
  rw [read?, print, tokens?_of_takes _ tokens takes]
  simp [whole]

end DataAccess.Json

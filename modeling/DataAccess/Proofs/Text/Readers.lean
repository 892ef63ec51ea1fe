import DataAccess.Proofs.Text.Stretches
import Mathlib.Data.List.TakeWhile

/-!
Readers take a part from the front of a text, if it begins with one, and give out the text behind
it. A reader can be repeated for as long as it takes something.
-/
set_option autoImplicit false

namespace DataAccess.Text

/-- Reads as often as possible: what has been read, and the text that is left. It is a fault to
read something that takes no text. -/
def readMany? {α : Type} (read : List Char → Option (α × List Char)) (text : List Char) :
    Option (List α × List Char) :=
  match read text with
  | none => some ([], text)
  | some (item, rest) =>
    if rest.length < text.length then
      (readMany? read rest).map fun (items, left) => (item :: items, left)
    else none
termination_by text.length

/-- One or more characters of a kind, and as many as there are. -/
def readWord? (kind : Char → Bool) (text : List Char) : Option (List Char × List Char) :=
  if text.takeWhile kind = [] then none else some (text.takeWhile kind, text.dropWhile kind)

section Readers

variable {α : Type} {read : List Char → Option (α × List Char)} {kind : Char → Bool}

theorem readMany?_of_none (text : List Char) (ended : read text = none) :
    readMany? read text = some ([], text) := by
  rw [readMany?, ended]

theorem readMany?_of_some (text rest left : List Char) (item : α) (items : List α)
    (first : read text = some (item, rest)) (shorter : rest.length < text.length)
    (later : readMany? read rest = some (items, left)) :
    readMany? read text = some (item :: items, left) := by
  rw [readMany?, first]
  simp only [shorter, ↓reduceIte, later, Option.map_some]

/-- What is read many times is read once and then many times, if it is read at all. -/
theorem of_readMany?_eq_some (text left : List Char) (items : List α)
    (many : readMany? read text = some (items, left)) :
    (read text = none ∧ items = [] ∧ left = text) ∨
      ∃ item rest later, read text = some (item, rest) ∧ rest.length < text.length ∧
        readMany? read rest = some (later, left) ∧ items = item :: later := by
  rw [readMany?] at many
  split at many
  · rename_i ended
    cases many
    exact .inl ⟨ended, rfl, rfl⟩
  · rename_i item rest first
    split at many
    · rename_i shorter
      obtain ⟨⟨later, ended⟩, again, same⟩ := Option.map_eq_some_iff.1 many
      cases same
      exact .inr ⟨item, rest, later, first, shorter, again, rfl⟩
    · cases many

/-- A word is one or more characters of a kind, up to the first of another kind. -/
theorem readWord?_eq_some_iff (text word rest : List Char) :
    readWord? kind text = some (word, rest) ↔
      text = word ++ rest ∧ word ≠ [] ∧ (∀ c ∈ word, kind c = true) ∧
        ∀ c ∈ rest.head?, kind c = false := by
  rw [readWord?]
  constructor
  · intro read
    rw [Option.ite_none_left_eq_some] at read
    obtain ⟨filled, same⟩ := read
    cases same
    exact ⟨List.takeWhile_append_dropWhile.symm, filled, fun c => List.mem_takeWhile_imp,
      head?_dropWhile kind text⟩
  · rintro ⟨rfl, filled, alike, border⟩
    obtain ⟨taken, left⟩ := span_append_of_head word rest alike border
    rw [taken, left, if_neg filled]

end Readers

end DataAccess.Text

import DataAccess.Text.Pieces

/-!
White space in the sense of the property White_Space, and the words that it separates.
-/
set_option autoImplicit false

namespace DataAccess.Text

/-- A character with the property White_Space. -/
def isBlank (c : Char) : Bool :=
  let code := c.toNat
  (9 ≤ code && code ≤ 13) || code == 0x20 || code == 0x85 || code == 0xA0 || code == 0x1680 ||
    (0x2000 ≤ code && code ≤ 0x200A) || code == 0x2028 || code == 0x2029 || code == 0x202F ||
    code == 0x205F || code == 0x3000

/-- The non-empty parts of a text between blanks. -/
def words (text : List Char) : List (List Char) :=
  (pieces isBlank text).filter fun piece => !piece.isEmpty

/-- The text without its leading and trailing blanks. -/
def trimBlank (text : List Char) : List Char :=
  ((text.dropWhile isBlank).reverse.dropWhile isBlank).reverse

theorem isBlank_of_isWhitespace (c : Char) (space : c.isWhitespace = true) :
    isBlank c = true := by
  simp only [Char.isWhitespace, Bool.or_eq_true, decide_eq_true_eq] at space
  rcases space with ((rfl | rfl) | rfl) | rfl <;> decide

theorem words_append_blank (before after : List Char) (c : Char) (blank : isBlank c = true) :
    words (before ++ c :: after) = words before ++ words after := by
  simp [words, pieces_append_cut isBlank before after c blank]

end DataAccess.Text

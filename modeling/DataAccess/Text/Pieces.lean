/-!
Text cut at separator characters. A text with `n` separators has `n + 1` pieces, some of which
may be empty; cutting at a separator between two texts cuts each of them on its own.
-/
set_option autoImplicit false

namespace DataAccess.Text

/-- Puts a character before the first piece. -/
def attach (c : Char) : List (List Char) → List (List Char)
  | [] => [[c]]
  | piece :: rest => (c :: piece) :: rest

/-- The parts of a text between the characters that satisfy `cut`. -/
def pieces (cut : Char → Bool) : List Char → List (List Char)
  | [] => [[]]
  | c :: rest => if cut c then [] :: pieces cut rest else attach c (pieces cut rest)

theorem pieces_ne_nil (cut : Char → Bool) (text : List Char) : pieces cut text ≠ [] := by
  cases text with
  | nil => simp [pieces]
  | cons c rest =>
    simp only [pieces]
    split
    · simp
    · cases pieces cut rest <;> simp [attach]

theorem attach_append (c : Char) (first second : List (List Char)) (filled : first ≠ []) :
    attach c (first ++ second) = attach c first ++ second := by
  cases first with
  | nil => exact absurd rfl filled
  | cons piece rest => rfl

theorem pieces_append_cut (cut : Char → Bool) (before after : List Char) (c : Char)
    (separates : cut c = true) :
    pieces cut (before ++ c :: after) = pieces cut before ++ pieces cut after := by
  induction before with
  | nil => simp [pieces, separates]
  | cons d rest ih =>
    simp only [List.cons_append, pieces, ih]
    split
    · rfl
    · exact attach_append d _ _ (pieces_ne_nil cut rest)

end DataAccess.Text

/-!
Texts cut at a separator. A text with `n` separators has `n + 1` pieces, some of them
possibly empty, and joining the pieces gives the text back.
-/

set_option autoImplicit false

namespace FormCheck.Text

/-- The piece before the first separator, and the pieces behind it in order. -/
def pieces (separator : Char) : List Char → List Char × List (List Char)
  | [] => ([], [])
  | c :: rest =>
      let (first, later) := pieces separator rest
      if c = separator then ([], first :: later) else (c :: first, later)

/-- Later pieces written behind a first one, each after a separator. -/
def joinPieces (separator : Char) (first : List Char) (later : List (List Char)) : List Char :=
  first ++ later.flatMap (separator :: ·)

/-- Cutting loses nothing: the pieces joined again are the text. -/
theorem joinPieces_pieces (separator : Char) (text : List Char) :
    joinPieces separator (pieces separator text).1 (pieces separator text).2 = text := by
  induction text with
  | nil => rfl
  | cons c rest ih =>
      by_cases same : c = separator
      · subst same
        simpa [pieces, joinPieces] using ih
      · simpa [pieces, joinPieces, same] using ih

end FormCheck.Text

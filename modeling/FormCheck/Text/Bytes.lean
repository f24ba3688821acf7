/-!
Sizes of texts in bytes. A text is measured in UTF-8, where a character takes one to four
bytes.
-/

set_option autoImplicit false

namespace FormCheck.Text

def byteCount : List Char → Nat
  | [] => 0
  | c :: rest => c.utf8Size + byteCount rest

@[simp] theorem byteCount_nil : byteCount [] = 0 := rfl

@[simp] theorem byteCount_cons (c : Char) (text : List Char) :
    byteCount (c :: text) = c.utf8Size + byteCount text := rfl

theorem byteCount_append (front back : List Char) :
    byteCount (front ++ back) = byteCount front + byteCount back := by
  induction front with
  | nil => simp
  | cons c rest ih => simp only [List.cons_append, byteCount_cons, ih, Nat.add_assoc]

theorem length_le_byteCount (text : List Char) : text.length ≤ byteCount text := by
  induction text with
  | nil => simp
  | cons c rest ih =>
      have := c.utf8Size_pos
      simp only [List.length_cons, byteCount_cons]
      omega

end FormCheck.Text

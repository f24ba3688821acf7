/-!
Blank characters. A character is blank when it has the Unicode property White_Space, and
trimming a text removes the blanks at its two ends and nothing between them.
-/

set_option autoImplicit false

namespace FormCheck.Text

/-- The characters with the Unicode property White_Space: the five controls from tab to
carriage return, next line, and the space separators with the two line separators. -/
def isBlank (c : Char) : Bool :=
  let code := c.toNat
  (0x0009 ≤ code && code ≤ 0x000D) || code == 0x0020 || code == 0x0085 || code == 0x00A0 ||
    code == 0x1680 || (0x2000 ≤ code && code ≤ 0x200A) || code == 0x2028 || code == 0x2029 ||
    code == 0x202F || code == 0x205F || code == 0x3000

def trimStart (text : List Char) : List Char :=
  text.dropWhile isBlank

def trimEnd (text : List Char) : List Char :=
  (text.reverse.dropWhile isBlank).reverse

def trim (text : List Char) : List Char :=
  trimEnd (trimStart text)

end FormCheck.Text

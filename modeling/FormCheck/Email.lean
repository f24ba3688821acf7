import FormCheck.Text.Pattern

/-!
Email addresses, by a deliberately simple pattern: a local part, an at sign, and a domain
that ends in a point and two to four letters. Nothing is trimmed and only ASCII letters
and digits count.
-/

set_option autoImplicit false

namespace FormCheck.Email

def isDomainChar (c : Char) : Bool :=
  c.isAlphanum || c == '.' || c == '-'

def isLocalChar (c : Char) : Bool :=
  isDomainChar c || c == '_'

def pattern : List Text.Step :=
  [ .one isLocalChar, .many isLocalChar, .one (· == '@'),
    .one isDomainChar, .many isDomainChar, .one (· == '.'),
    .one Char.isAlpha, .one Char.isAlpha, .optional Char.isAlpha, .optional Char.isAlpha ]

def isAddress (text : String) : Bool :=
  Text.accepts pattern text.toList

end FormCheck.Email

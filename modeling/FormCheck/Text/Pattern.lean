/-!
Patterns of repeated character classes. A pattern is a sequence of steps, each of which
takes characters of one class, and it accepts a text when some way of sharing out the
whole text among the steps satisfies all of them.
-/

set_option autoImplicit false

namespace FormCheck.Text

/-- How many characters of one class a step of a pattern takes. -/
inductive Step where
  | one (allowed : Char → Bool)
  | optional (allowed : Char → Bool)
  | many (allowed : Char → Bool)

def acceptsOne (allowed : Char → Bool) (next : List Char → Bool) : List Char → Bool
  | [] => false
  | c :: rest => allowed c && next rest

/-- Whether the text is any number of allowed characters followed by a text that `next`
accepts. -/
def acceptsMany (allowed : Char → Bool) (next : List Char → Bool) : List Char → Bool
  | [] => next []
  | c :: rest => next (c :: rest) || (allowed c && acceptsMany allowed next rest)

/-- Whether the steps can share out the whole text among them. -/
def accepts : List Step → List Char → Bool
  | [] => List.isEmpty
  | .one allowed :: steps => acceptsOne allowed (accepts steps)
  | .optional allowed :: steps =>
      fun text => accepts steps text || acceptsOne allowed (accepts steps) text
  | .many allowed :: steps => acceptsMany allowed (accepts steps)

end FormCheck.Text

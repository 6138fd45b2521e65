/-!
# Literal text in patterns

A pattern gives some characters a meaning of their own. `escapePattern` puts a
backslash before each of them, so that the pattern matches the text literally.
-/

namespace DocQuery

/-- The characters that are escaped: the metacharacters, and those that a
pattern with comments would skip. -/
def escapedChars : List Char :=
  ['(', ')', '[', ']', '{', '}', '?', '*', '+', '-', '|', '^', '$', '\\', '.', '&', '~', '#',
   ' ', '\t', '\n', '\r', '\x0b', '\x0c']

def escapeChars (cs : List Char) : List Char :=
  cs.flatMap fun c => if escapedChars.contains c then ['\\', c] else [c]

def escapePattern (s : String) : String := String.ofList (escapeChars s.toList)

end DocQuery

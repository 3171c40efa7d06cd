/-
Writing a text as a pattern for that text.

Every character with a meaning of its own gets a backslash.  A closing bracket needs
none: without an opening one it stands for itself.
-/
import LineGlob.Pattern.Grammar

namespace LineGlob

/-- The source of a pattern that matches a text and nothing else. -/
def quote : List Char → List Char
  | [] => []
  | c :: cs => if Element.isSpecial c then '\\' :: c :: quote cs else c :: quote cs

end LineGlob

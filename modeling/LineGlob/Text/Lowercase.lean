/-
The lowercase of a whole text.

Two capitals have a lowercase that `lower` does not give: the dotted capital I, which
becomes two characters, and the capital sigma, which has a form of its own at the end
of a word.
-/
import LineGlob.Text.Casing
import LineGlob.Text.Fold

namespace LineGlob.Text

/-- Whether a letter comes next, apart from characters that casing passes over. -/
def letterNext (cs : List Char) : Bool :=
  (cs.find? fun c => !isCaseIgnorable c).any isCased

/-- The lowercase of a text.  `before` is what stands in front of it, latest first. -/
def lowercaseAfter (before : List Char) : List Char → List Char
  | [] => []
  | c :: cs =>
    let here :=
      if c = 'İ' then ['i', '\u0307']
      else if c = 'Σ' then [if letterNext before && !letterNext cs then 'ς' else 'σ']
      else [lower c]
    here ++ lowercaseAfter (c :: before) cs

/-- The lowercase of a text. -/
def lowercase (cs : List Char) : List Char :=
  lowercaseAfter [] cs

end LineGlob.Text

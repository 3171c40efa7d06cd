/-
Folding letter case.

Two characters count as the same letter if they have the same fold.  A character is
folded by taking its uppercase and then the lowercase of that, so that a letter with
several lowercase forms has one fold for all of them.  A step that would yield more
than one character is left out.
-/
import LineGlob.Text.CaseTable

namespace LineGlob.Text

/-- The counterpart of a character in a list of runs; itself if no run lists it. -/
def counterpartIn (runs : List CaseRun) (c : Char) : Char :=
  match runs.findSome? (·.counterpart? c.toNat) with
  | some code => Char.ofNat code
  | none => c

/-- The uppercase of a character, where that is a single character. -/
def upper (c : Char) : Char :=
  if c.toNat < 0x80 then c.toUpper else counterpartIn CaseRun.upper c

/-- The lowercase of a character, where that is a single character. -/
def lower (c : Char) : Char :=
  if c.toNat < 0x80 then c.toLower else counterpartIn CaseRun.lower c

/-- The representative of all characters that differ from `c` in case alone. -/
def fold (c : Char) : Char :=
  if c.toNat < 0x80 then c.toLower else lower (upper c)

end LineGlob.Text

/-
The lines of some bytes.

A line ends at a newline.  What follows the last newline is a line too, unless there
is nothing.  Lines are kept without their newlines: a selected line is printed with
one, whether it had one or not.
-/
import LineGlob.Text.Utf8

namespace LineGlob.Lines

/-- The byte that ends a line. -/
def newline : UInt8 := 10

/-- The byte that may stand before a newline and is no part of the text of a line. -/
def carriageReturn : UInt8 := 13

/-- Reads on in a line.  `line` holds its bytes so far and `done` the lines before it, each of them
latest first. -/
def scan (line : Bytes) (done : List Bytes) : Bytes → List Bytes × Bytes
  | [] => (done.reverse, line.reverse)
  | b :: bytes =>
    if b = newline then scan [] (line.reverse :: done) bytes else scan (b :: line) done bytes

/-- The lines that end at a newline, and what follows the last of them. -/
def split (bytes : Bytes) : List Bytes × Bytes :=
  scan [] [] bytes

/-- All lines of some bytes. -/
def ofBytes (bytes : Bytes) : List Bytes :=
  let (lines, rest) := split bytes
  if rest.isEmpty then lines else lines ++ [rest]

/-- The text of a line, without one carriage return at its end. -/
def text (line : Bytes) : List Char :=
  Text.decodeLossy (if line.getLast? = some carriageReturn then line.dropLast else line)

end LineGlob.Lines

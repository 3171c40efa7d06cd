/-
Opened inputs.

An input is what can be read from it.  Reading may end in a failure instead of an end,
and then the last line is lost unless it is complete.
-/
import LineGlob.Input.Lines
import LineGlob.Input.Reference
import LineGlob.IoError

namespace LineGlob

/-- An opened input: what it holds, and how reading fails after that if it does not simply end. -/
structure Input where
  reference : Reference
  data : Bytes
  failure : Option IoError
deriving DecidableEq, Repr

namespace Input

/-- The lines of an input that can be read.  After a failure the unfinished last line is lost. -/
def lines (i : Input) : List Bytes :=
  match i.failure with
  | none => Lines.ofBytes i.data
  | some _ => (Lines.split i.data).1

/-- A description of an opened input in one line. -/
def describe (i : Input) : String :=
  let reference :=
    match i.reference with
    | .stdin => "Stdin"
    | .file path => "File(" ++ String.ofList (Text.quotedBytes path) ++ ")"
  "Input \x7b reference: " ++ reference ++ ", .. \x7d"

end Input

end LineGlob

/-
What a run notes down for whoever looks into it.
-/
import LineGlob.Input.Reference

namespace LineGlob

/-- A step of a run worth noting. -/
inductive Note where
  /-- Settings are going to be read from a file; `required` tells whether it has to exist. -/
  | source (path : Bytes) (required : Bool)
  /-- Standard input was named once more and is left out. -/
  | repeatedStdin
  /-- An input has been opened. -/
  | opened (input : Reference)
  /-- An input has been read to its end. -/
  | selected (input : Reference) (count : Nat)
deriving DecidableEq, Repr

/-- The text of a note. -/
def Note.text : Note → String
  | source path required =>
    "adding configuration source SourceFile \x7b filename: " ++
      String.ofList (Text.quotedBytes path) ++ ", required: " ++
      (if required then "true" else "false") ++ " \x7d"
  | repeatedStdin => "ignoring repeated standard input reference"
  | opened input => "opened " ++ input.description
  | selected input count => input.description ++ ": " ++ toString count ++ " line(s) selected"

end LineGlob

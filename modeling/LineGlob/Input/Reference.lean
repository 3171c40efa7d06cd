/-
What an input is called.

A single dash stands for standard input and everything else for a file, also a dash
in a directory.  An input has two names: the one that stands before its lines and the one that
diagnostics use, which cannot be mistaken for anything else.
-/
import LineGlob.Text.Quoted

namespace LineGlob

/-- An input that has not been opened yet. -/
inductive Reference where
  | stdin
  | file (path : Bytes)
deriving DecidableEq, Repr

namespace Reference

/-- The path that stands for standard input. -/
def dash : Bytes := Text.encode ['-']

/-- The input that a path stands for. -/
def ofPath (path : Bytes) : Reference :=
  if path = dash then stdin else file path

/-- The name that stands before the lines of an input. -/
def displayName : Reference → List Char
  | stdin => "(standard input)".toList
  | file path => Text.decodeLossy path

/-- The name of an input in diagnostics. -/
def description : Reference → String
  | stdin => "<stdin>"
  | file path => "file " ++ String.ofList (Text.quotedBytes path)

/-! ### Lists of inputs -/

/-- Leaves out standard input after its first occurrence: it can be read only once.  `seen` tells
whether it has occurred before. -/
def dropRepeatedStdin (seen : Bool) : List Reference → List Reference
  | [] => []
  | stdin :: refs => if seen then dropRepeatedStdin true refs else stdin :: dropRepeatedStdin true refs
  | ref :: refs => ref :: dropRepeatedStdin seen refs

/-- The inputs that a list of paths stands for, in order.  With no path it is standard input. -/
def ofPaths (paths : List Bytes) : List Reference :=
  match dropRepeatedStdin false (paths.map ofPath) with
  | [] => [stdin]
  | refs => refs

end Reference

end LineGlob

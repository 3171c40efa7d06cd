/-
The filter: from its inputs in order, the lines that a pattern selects.

A line is selected if the pattern matches its text as a whole, or, with `invert`, if it
does not.  Selected lines are printed as they were read, byte for byte; with `count`
only their number is, for each input.

Inputs are read line by line and lines are printed as they come, so a failure in the
middle leaves everything before it done: complete lines of an input that cannot be
read to its end count, its unfinished last line does not.
-/
import LineGlob.Error
import LineGlob.Filter.Output
import LineGlob.Input.Basic
import LineGlob.Note
import LineGlob.Pattern.Basic

namespace LineGlob

/-- What a filter selects and how it prints that. -/
structure Filter where
  pattern : Pattern
  /-- Select the lines that do not match. -/
  invert : Bool
  /-- Print numbers of lines instead of lines. -/
  count : Bool
  /-- Print the name of the input before each line. -/
  withFilename : Bool

namespace Filter

/-- How far a run has come: its output and its notes, latest first. -/
structure Progress where
  output : Output
  notes : List Note

/-- A step of a run, which may fail and keeps what was done before that. -/
abbrev Step := EStateM Error Progress

/-- Writes bytes to the output. -/
def write (bytes : Bytes) : Step Unit := fun p =>
  match p.output.write bytes with
  | (output, none) => .ok () { p with output }
  | (output, some e) => .error (.io e) { p with output }

/-- Passes on what has been written. -/
def flush : Step Unit := fun p =>
  match p.output.flushFailure with
  | none => .ok () p
  | some e => .error (.io e) p

/-- Adds a note. -/
def note (n : Note) : Step Unit := fun p =>
  .ok () { p with notes := n :: p.notes }

/-- Whether a line is selected. -/
def selects (f : Filter) (line : Bytes) : Bool :=
  f.pattern.isMatch (String.ofList (Lines.text line)) != f.invert

/-- Prints one line: the name of its input if asked for, the line, and a newline. -/
def printLine (f : Filter) (input : Reference) (line : Bytes) : Step Unit := do
  if f.withFilename then
    write (Text.encode input.displayName)
    write (Text.encode [':'])
  write line
  write [Lines.newline]

/-- Prints the selected ones of some lines, and returns `selected` plus their number. -/
def printLines (f : Filter) (input : Reference) (selected : Nat) : List Bytes → Step Nat
  | [] => return selected
  | line :: lines => do
    if f.selects line then
      if !f.count then
        f.printLine input line
      f.printLines input (selected + 1) lines
    else
      f.printLines input selected lines

/-- Filters one input and returns the number of its selected lines. -/
def filterInput (f : Filter) (input : Input) : Step Nat := do
  let selected ← f.printLines input.reference 0 input.lines
  match input.failure with
  | some e => throw (.io e)
  | none =>
    if f.count then
      f.printLine input.reference (Text.encode (Nat.toDigits 10 selected))
    note (.selected input.reference selected)
    return selected

/-- Filters some inputs, and returns `total` plus the number of their selected lines. -/
def filterAll (f : Filter) (total : Nat) : List Input → Step Nat
  | [] => return total
  | input :: inputs => do
    let selected ← f.filterInput input
    f.filterAll (total + selected) inputs

/-- What a run leaves behind. -/
structure Outcome where
  /-- The number of selected lines, or why the run failed. -/
  result : Except Error Nat
  output : Output
  notes : List Note

/-- Filters inputs into an output. -/
def run (f : Filter) (inputs : List Input) (output : Output) : Outcome :=
  let steps : Step Nat := do
    let total ← f.filterAll 0 inputs
    flush
    return total
  match steps.run ⟨output, []⟩ with
  | .ok total p => ⟨.ok total, p.output, p.notes.reverse⟩
  | .error e p => ⟨.error e, p.output, p.notes.reverse⟩

end Filter

end LineGlob

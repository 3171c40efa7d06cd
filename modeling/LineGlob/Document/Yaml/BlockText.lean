/-
Texts of whole lines in YAML.

Such a text is introduced by a bar, which keeps its line ends, or by an angle, which
makes blanks of them.  Its lines are indented alike, by as much as the first one that is
not empty or as its introduction says, and what indents them is no part of it.
-/
import LineGlob.Document.Yaml.Cursor

namespace LineGlob.Yaml.BlockText

open Scan

/-- What becomes of the line ends at the end of a text. -/
inductive Ending where
  /-- All are left out. -/
  | strip
  /-- One is kept. -/
  | clip
  /-- All are kept. -/
  | keep
deriving DecidableEq, Repr

/-- How a text is introduced. -/
structure Header where
  ending : Ending
  /-- By how much the text is indented, if that is given. -/
  indent : Option Nat

/-- Reads how line ends at the end are treated, if that is given. -/
def ending? : Reader (Option Ending) := do
  if ← Reader.accept ['+'] then return some .keep
  else if ← Reader.accept ['-'] then return some .strip
  else return none

/-- Reads by how much the text is indented, if that is given.  It has to be indented. -/
def indent? : Reader (Option Nat) := do
  match ← Reader.peek? with
  | some c =>
    if c.isDigit then
      if c == '0' then failure
      let _ ← Reader.next
      return some (c.toNat - '0'.toNat)
    else
      return none
  | none => return none

/-- Reads the rest of an introduction, in which the two parts may stand in either order. -/
def header : Reader Header := do
  match ← ending? with
  | some e => return ⟨e, ← indent?⟩
  | none =>
    let indent ← indent?
    let e ← if indent.isSome then ending? else pure none
    return ⟨e.getD .clip, indent⟩

/-- Skips spaces up to a column, or all there are. -/
def spaces (column : Option Nat) : Scan Unit := do
  let c ← get
  let blanks := (c.rest.takeWhile (· == ' ')).length
  modify (·.pass (match column with
    | some n => min blanks (n - c.column)
    | none => blanks))

/-- Skips empty lines, the blanks of which reach at most up to a column, and returns how many there
are.  What comes next is no empty line, and the spaces before it are skipped up to the column. -/
def emptyLines (column : Option Nat) : Scan (Nat × Nat) :=
  loop (fun (count, widest) => do
    spaces column
    let here ← get
    let widest := max widest here.column
    if here.rest.head?.any isBreak then
      newLine
      return .inl (count + 1, widest)
    else
      return .inr (count, widest)) (0, 0)

/-- How far a text has been read. -/
structure Progress where
  /-- What has been read, latest first. -/
  done : List Char := []
  /-- Whether a line end comes next that may count as a blank. -/
  ended : Bool := false
  /-- The number of empty lines that come after it. -/
  empty : Nat := 0
  /-- Whether the last line started with a blank. -/
  blank : Bool := false

/-- The line ends that come next, all of them kept. -/
def Progress.lineEnds (p : Progress) : List Char :=
  List.replicate ((if p.ended then 1 else 0) + p.empty) '\n'

/-- Reads the lines of a text, which are indented up to a column. -/
def lines (folded : Bool) (column : Nat) (empty : Nat) : Scan Progress :=
  loop (fun (p : Progress) => do
    let here ← get
    match here.rest.head? with
    | none => return .inr p
    | some c =>
      if here.column != column || here.isDivision then return .inr p
      let blank := isBlank c
      let between :=
        if folded && p.ended && !p.blank && !blank then
          if p.empty = 0 then [' '] else List.replicate p.empty '\n'
        else
          p.lineEnds
      let text := here.rest.takeWhile (!isBreak ·)
      modify (·.pass text.length)
      let done := text.reverse ++ between ++ p.done
      if (← peek?).isNone then
        return .inr { done, blank }
      else
        newLine
        let (empty, _) ← emptyLines (some column)
        return .inl ⟨done, true, empty, blank⟩) { empty }

/-- Reads a text that belongs to something indented by `parent`. -/
def text (parent : Int) : Scan (List Char) := do
  let start := (← get).line
  let folded := (← peek?) == some '>'
  skip 1
  let h ← onLine header
  let _ ← gap
  atLineEnd
  newLine
  if (← peek?) == some '\t' then failure
  let given := h.indent.map fun n => n + parent.toNat
  let (empty, widest) ← emptyLines given
  let column := given.getD (max widest (parent + 1).toNat)
  let here ← get
  if here.rest.isEmpty then
    let ends :=
      if h.ending = .strip || here.line = start then 0
      else if h.ending = .keep then max 1 empty
      else 1
    return List.replicate ends '\n'
  if here.column < column && parent < here.column then failure
  let p ← lines folded column empty
  let here ← get
  let closing : List Char :=
    (if p.ended then ['\n'] else []) ++
      (if here.rest.isEmpty && max (parent + 1) 1 ≤ here.column then ['\n'] else [])
  let ends : List Char :=
    match h.ending with
    | .strip => []
    | .clip => closing
    | .keep => closing ++ List.replicate p.empty '\n'
  return p.done.reverse ++ ends

end LineGlob.Yaml.BlockText

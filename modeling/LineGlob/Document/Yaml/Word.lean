/-
Words in YAML.

A word may go on over several lines.  A single line end inside it counts as a blank,
and of several the first one is dropped.  Lines that a word goes on have to be indented
far enough, and tabs do not indent.
-/
import LineGlob.Document.Yaml.Cursor

namespace LineGlob.Yaml

/-- What stands between two parts of a word. -/
structure Space where
  /-- Blanks on the line of the first part, latest first. -/
  blanks : List Char := []
  /-- Whether the line of the first part has ended. -/
  ended : Bool := false
  /-- How many lines have ended after it. -/
  empty : Nat := 0

/-- What counts of it in the word, latest first.  `broken` says whether the second part stands on
another line. -/
def Space.toChars (s : Space) (broken : Bool) : List Char :=
  if !broken then s.blanks
  else if s.ended && s.empty = 0 then [' ']
  else List.replicate s.empty '\n'

/-- Goes on to the next line. -/
def Space.newLine (s : Space) (broken : Bool) : Space :=
  if broken then { s with empty := s.empty + 1 } else { s with blanks := [], ended := true }

/-! ### Words in marks -/

namespace Quoted

open Scan

/-- Reads an escaped character. -/
def escaped : Reader Char := do
  Reader.expect ['\\']
  match ← Reader.next with
  | '0' => return '\x00'
  | 'a' => return '\x07'
  | 'b' => return '\x08'
  | 't' | '\t' => return '\t'
  | 'n' => return '\n'
  | 'v' => return '\x0b'
  | 'f' => return '\x0c'
  | 'r' => return '\r'
  | 'e' => return '\x1b'
  | ' ' => return ' '
  | '"' => return '"'
  | '/' => return '/'
  | '\\' => return '\\'
  | 'N' => return Char.ofNat 0x85
  | '_' => return Char.ofNat 0xA0
  | 'L' => return Char.ofNat 0x2028
  | 'P' => return Char.ofNat 0x2029
  | 'x' => Reader.codePoint 2
  | 'u' => Reader.codePoint 4
  | 'U' => Reader.codePoint 8
  | _ => failure

/-- Reads on up to a blank, a line end or the closing mark.  In double marks a backslash may stand
before a line end, which is then dropped; it is told whether one did. -/
def part (double : Bool) (done : List Char) : Scan (List Char × Bool) :=
  loop (fun done => do
    match ← peek? with
    | none => return .inr (done, false)
    | some c =>
      if isBlank c || isBreak c then
        return .inr (done, false)
      else if double && c == '"' then
        return .inr (done, false)
      else if double && c == '\\' then
        if (← second?).any isBreak then
          skip 1
          newLine
          return .inr (done, true)
        else
          return .inl ((← onLine escaped) :: done)
      else if !double && c == '\'' then
        if (← second?) == some '\'' then
          skip 2
          return .inl ('\'' :: done)
        else
          return .inr (done, false)
      else
        skip 1
        return .inl (c :: done)) done

/-- Skips what stands between two parts of a word.  `dropped` says whether a line end before it has
been dropped. -/
def space (indent : Int) (dropped : Bool) : Scan (List Char) :=
  loop (fun ((s : Space), broken) => do
    match ← peek? with
    | some c =>
      if isBlank c then
        if broken && c == '\t' && (← get).column < indent then failure
        skipBlank
        return .inl (if broken then s else { s with blanks := c :: s.blanks }, broken)
      else if isBreak c then
        newLine
        return .inl (s.newLine broken, true)
      else
        return .inr (s.toChars broken)
    | none => return .inr (s.toChars broken)) ({}, dropped)

/-- Reads a word in marks, the lines of which are indented by at least `indent`. -/
def word (double : Bool) (indent : Int) : Scan (List Char) := do
  skip 1
  loop (fun (done : List Char) => do
    let here ← get
    if here.isDivision || here.rest.isEmpty || here.column < indent then failure
    let (done, dropped) ← part double done
    if (← peek?) == some (if double then '"' else '\'') then
      skip 1
      return .inr done.reverse
    else
      return .inl ((← space indent dropped) ++ done)) []

end Quoted

/-! ### Words without marks -/

namespace Plain

open Scan

/-- Whether a word goes on with `c`.  A colon before a blank ends it, and so does a mark in
brackets. -/
def continues (inFlow : Bool) (c : Char) (next : Option Char) : Bool :=
  if c == ':' then !(endsWord next || (inFlow && next.any isFlowMark))
  else !(isBlank c || isBreak c || (inFlow && isFlowMark c))

/-- Reads on as long as the word goes on without a blank. -/
def part (inFlow : Bool) (done : List Char) : Scan (List Char) :=
  loop (fun done => do
    match ← peek? with
    | some c =>
      if continues inFlow c (← second?) then
        skip 1
        return .inl (c :: done)
      else
        return .inr done
    | none => return .inr done) done

/-- Skips what may stand between two parts of a word.  Where a line would be indented with a tab,
it has to be empty. -/
def space (indent : Int) (s : Space) : Scan Space :=
  loop (fun (s : Space) => do
    let here ← get
    match here.rest.head? with
    | some c =>
      if isBlank c then
        if !here.leading then
          skipBlank
          return .inl { s with blanks := c :: s.blanks }
        else if here.column < indent && c == '\t' then
          let _ ← gap
          atLineEnd
          return .inl s
        else
          skipBlank
          return .inl s
      else if isBreak c then
        newLine
        return .inl (s.newLine here.leading)
      else
        return .inr s
    | none => return .inr s) s

/-- Reads a word, the lines of which are indented by at least `indent`. -/
def word (inFlow : Bool) (indent : Int) : Scan (List Char) := do
  if inFlow && (← get).column < indent then failure
  let cs ← loop (fun ((done : List Char), (s : Space)) => do
    let here ← get
    let next := here.rest[1]?
    match here.rest.head? with
    | none => return .inr done
    | some c =>
      if here.isDivision || c == '#' then return .inr done
      if inFlow && c == '-' && next.any isFlowMark then failure
      let (done, s) ←
        if continues inFlow c next then
          pure (← part inFlow (s.toChars here.leading ++ done), ({} : Space))
        else
          pure (done, s)
      match ← peek? with
      | some c =>
        if isBlank c || isBreak c then
          let s ← space indent s
          if !inFlow && (← get).column < indent then return .inr done
          return .inl (done, s)
        else
          return .inr done
      | none => return .inr done) ([], {})
  if cs.isEmpty then failure
  return cs.reverse

end Plain

end LineGlob.Yaml

/-
Places in a YAML document.

What a column means depends on the columns before it, and a key has to stand on one
line, so a place is kept with its line and its column.  It is kept as well whether
anything but blanks stands before it on its line: blanks at the start of a line indent
it, and others do not.

A document ends at the first null character.
-/
import LineGlob.Document.Reader

namespace LineGlob.Yaml

/-! ### Characters -/

/-- Whether a character is blank within a line. -/
def isBlank (c : Char) : Bool := c == ' ' || c == '\t'

/-- Whether a character ends a line. -/
def isBreak (c : Char) : Bool := c == '\n' || c == '\r'

/-- Whether a character opens, closes or separates in brackets. -/
def isFlowMark (c : Char) : Bool :=
  c == ',' || c == '[' || c == ']' || c == '\x7b' || c == '\x7d'

/-- Whether the next character ends a line, or there is none. -/
def endsLine (next : Option Char) : Bool := next.all isBreak

/-- Whether the next character ends a word: it is blank, a line end, or there is none. -/
def endsWord (next : Option Char) : Bool := next.all fun c => isBlank c || isBreak c

/-! ### Places -/

/-- A place in a text, and what is left of the text from there. -/
structure Cursor where
  rest : List Char
  line : Nat
  column : Nat
  /-- The number of characters before the place. -/
  offset : Nat
  /-- Whether nothing but blanks stands before the place on its line. -/
  leading : Bool
deriving Repr

namespace Cursor

/-- The start of a text. -/
def ofText (cs : List Char) : Cursor :=
  ⟨cs.takeWhile (· != '\x00'), 0, 0, 0, true⟩

/-- The place after the next `n` characters, which end no line. -/
def pass (n : Nat) (c : Cursor) : Cursor :=
  { c with rest := c.rest.drop n, column := c.column + n, offset := c.offset + n }

/-- The start of the next line, if the next characters end this one. -/
def newLine (c : Cursor) : Cursor :=
  match c.rest with
  | '\r' :: '\n' :: rest => ⟨rest, c.line + 1, 0, c.offset + 2, true⟩
  | '\r' :: rest | '\n' :: rest => ⟨rest, c.line + 1, 0, c.offset + 1, true⟩
  | _ => c

/-- Whether a line starts here with three marks between documents, of the given kind. -/
def isMarker (mark : Char) (c : Cursor) : Bool :=
  c.column = 0 && c.rest.take 3 == [mark, mark, mark] && endsWord c.rest[3]?

/-- Whether documents are divided here. -/
def isDivision (c : Cursor) : Bool :=
  c.isMarker '-' || c.isMarker '.'

end Cursor

/-! ### Scanning -/

/-- A way to read something from a place on. -/
abbrev Scan := StateT Cursor Option

namespace Scan

/-- The next character, which is left where it is. -/
def peek? : Scan (Option Char) := do
  return (← get).rest.head?

/-- The character after the next one. -/
def second? : Scan (Option Char) := do
  return (← get).rest[1]?

/-- Skips `n` characters that are not blank. -/
def skip (n : Nat) : Scan Unit :=
  modify fun c => { c.pass n with leading := false }

/-- Skips a blank. -/
def skipBlank : Scan Unit :=
  modify (·.pass 1)

/-- Skips a line end. -/
def newLine : Scan Unit :=
  modify (·.newLine)

/-- Takes characters as long as they satisfy a condition. -/
def span (p : Char → Bool) : Scan (List Char) := do
  let taken := (← get).rest.takeWhile p
  unless taken.isEmpty do skip taken.length
  return taken

/-- Skips what is left of a line but for its end. -/
def skipLine : Scan Unit := do
  let _ ← span (!isBreak ·)

/-- Reads something that stands on one line. -/
def onLine {α : Type} (r : Reader α) : Scan α := do
  let c ← get
  match r.run c.rest with
  | some (a, rest) =>
    skip (c.rest.length - rest.length)
    return a
  | none => failure

/-- Repeats a step that changes a state until it says that it is done. -/
def loop {σ β : Type} (step : σ → Scan (σ ⊕ β)) (start : σ) : Scan β := do
  iterate step ((← get).rest.length + 1) start

/-- The kinds of blanks between two tokens. -/
structure Gap where
  hasTab : Bool := false
  hasSpace : Bool := false

/-- Skips blanks, and a comment after them.  A comment has to have a blank before it. -/
def gap : Scan Gap :=
  loop (fun (g : Gap) => do
    match ← peek? with
    | some ' ' =>
      skipBlank
      return .inl { g with hasSpace := true }
    | some '\t' =>
      skipBlank
      return .inl { g with hasTab := true }
    | some '#' =>
      unless g.hasTab || g.hasSpace do failure
      skipLine
      return .inr g
    | _ => return .inr g) {}

/-- Refuses to go on unless the line ends here. -/
def atLineEnd : Scan Unit := do
  unless endsLine (← peek?) do failure

end Scan

end LineGlob.Yaml

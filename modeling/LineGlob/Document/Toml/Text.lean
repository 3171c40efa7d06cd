/-
Texts, keys and what stands between them in TOML.

A text stands in double marks, which allow escapes, or in single ones, which do not; in
three marks it may run over several lines.  A part of a key is a word of letters,
digits and two more characters, or a text of one line.
-/
import LineGlob.Document.Reader

namespace LineGlob.Toml

open Reader

/-! ### Between tokens -/

/-- Skips blanks within a line. -/
def blanks : Reader Unit := do
  let _ ← span fun c => c == ' ' || c == '\t'

/-- Whether a character may stand in a comment or between quotation marks. -/
def isPlain (c : Char) : Bool :=
  c == '\t' || (c.toNat ≥ 0x20 && c.toNat != 0x7F)

/-- Takes the end of a line, if it comes next. -/
def newline : Reader Bool := do
  if ← accept ['\n'] then return true else accept ['\r', '\n']

/-- Skips a comment. -/
def comment : Reader Unit := do
  if ← accept ['#'] then
    let _ ← span isPlain

/-- Takes the rest of a line, which has to hold nothing more. -/
def endLine : Reader Unit := do
  blanks
  comment
  unless ← newline do finish

/-- Skips blanks, comments and line ends. -/
def skipLines : Reader Unit :=
  loop (fun () => do
    blanks
    comment
    if ← newline then return .inl () else return .inr ()) ()

/-! ### Texts -/

/-- Reads an escaped character after the backslash. -/
def escaped : Reader Char := do
  match ← next with
  | 'b' => return '\x08'
  | 't' => return '\t'
  | 'n' => return '\n'
  | 'f' => return '\x0c'
  | 'r' => return '\r'
  | 'e' => return '\x1b'
  | '"' => return '"'
  | '\\' => return '\\'
  | 'x' => codePoint 2
  | 'u' => codePoint 4
  | 'U' => codePoint 8
  | _ => failure

/-- Reads a text of one line up to its closing mark. -/
def lineText (mark : Char) : Reader String := do
  expect [mark]
  let cs ← many do
    let c ← next
    if c == mark then return none
    else if c == '\\' && mark == '"' then return some (← escaped)
    else if isPlain c then return some c
    else failure
  return String.ofList cs

/-- Skips the end of a line after a backslash, and all that is blank after it; tells whether there
was one. -/
def joinedLines : Reader Bool := do
  let rest ← get
  blanks
  if ← newline then
    loop (fun () => do
      blanks
      if ← newline then return .inl () else return .inr ()) ()
    return true
  else
    set rest
    return false

/-- Reads a text of several lines up to its closing marks.  A line end at its start is no part of
it, other line ends stay as they are, and up to two marks may stand before the closing ones. -/
def linesText (mark : Char) : Reader String := do
  expect [mark, mark, mark]
  let _ ← newline
  let cs ← loop (fun (done : List Char) => do
    if ← accept [mark, mark, mark] then
      let first ← accept [mark]
      let second ← if first then accept [mark] else pure false
      let extra := (if first then [mark] else []) ++ (if second then [mark] else [])
      return .inr (done.reverse ++ extra)
    else if ← accept ['\r', '\n'] then
      return .inl ('\n' :: '\r' :: done)
    else if ← accept ['\n'] then
      return .inl ('\n' :: done)
    else
      let c ← next
      if c == '\\' && mark == '"' then
        if ← joinedLines then return .inl done
        else return .inl ((← escaped) :: done)
      else if isPlain c then return .inl (c :: done)
      else failure) []
  return String.ofList cs

/-- Reads a text in either kind of marks. -/
def text (mark : Char) : Reader String := do
  if ← startsWith [mark, mark, mark] then linesText mark else lineText mark

/-! ### Keys -/

/-- Whether a character may stand in a key without marks. -/
def isBare (c : Char) : Bool :=
  c.isAlphanum || c == '_' || c == '-'

/-- Reads one part of a key. -/
def simpleKey : Reader String := do
  match ← peek? with
  | some '"' => lineText '"'
  | some '\'' => lineText '\''
  | _ => return String.ofList (← span1 isBare)

/-- Reads a key, the parts of which have dots between them. -/
def key : Reader (List String) :=
  loop (fun done => do
    blanks
    let done := (← simpleKey) :: done
    blanks
    if ← accept ['.'] then return .inl done else return .inr done.reverse) []

end LineGlob.Toml

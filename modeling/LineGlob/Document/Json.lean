/-
Documents in JSON.

The format is read strictly: no comments, no commas at the end, nothing after the
value.  Names may be repeated in an object, and the last one counts.  A number has to
fit a double, and values are nested less than 128 deep.  A decimal is read in rounded
steps, so it need not be the nearest double that is read.
-/
import LineGlob.Document.Reader

namespace LineGlob.Json

open Reader

/-- The number of values around the innermost one, itself included, that is too many. -/
def maxDepth : Nat := 128

/-- Skips blanks between tokens. -/
def blanks : Reader Unit := do
  let _ ← span fun c => c == ' ' || c == '\t' || c == '\n' || c == '\r'

/-! ### Texts -/

/-- Reads one of the two halves in which a character is escaped that four digits cannot name. -/
def half : Reader Nat := do
  return Number.ofDigits 16 (← count 4 isHex)

/-- Reads an escaped character after the backslash. -/
def escaped : Reader Char := do
  match ← next with
  | '"' => return '"'
  | '\\' => return '\\'
  | '/' => return '/'
  | 'b' => return '\x08'
  | 'f' => return '\x0c'
  | 'n' => return '\n'
  | 'r' => return '\r'
  | 't' => return '\t'
  | 'u' =>
    let first ← half
    if 0xD800 ≤ first && first < 0xDC00 then
      expect ['\\', 'u']
      let second ← half
      if 0xDC00 ≤ second && second < 0xE000 then
        return Char.ofNat (0x10000 + (first - 0xD800) * 0x400 + (second - 0xDC00))
      else
        failure
    else if 0xDC00 ≤ first && first < 0xE000 then
      failure
    else
      return Char.ofNat first
  | _ => failure

/-- Reads a text up to its closing quotation mark. -/
def text : Reader String := do
  expect ['"']
  let cs ← many do
    match ← next with
    | '"' => return none
    | '\\' => return some (← escaped)
    | c => if c.toNat < 0x20 then failure else return some c
  return String.ofList cs

/-! ### Numbers -/

/-- Appends digits to a number as long as it fits 64 bits, and returns it with the number of digits
that were appended. -/
def append (n : Nat) : List Char → Nat × Nat
  | [] => (n, 0)
  | c :: cs =>
    let longer := n * 10 + Number.ofDigits 10 [c]
    if longer < Nat.pow 2 64 then
      let (n, appended) := append longer cs
      (n, appended + 1)
    else
      (n, 0)

/-- The number with these digits before and after the point, shifted by `shift` places, unless it
is too large.  Of a number with a point, of a shifted one and of one that does not fit 64 bits it
keeps the digits that fit, and shifts the double nearest to them. -/
def ofDigits? (negative : Bool) (whole : List Char) (fraction : Option (List Char))
    (shift : Option Int) : Option Number := do
  let (n, kept) := append 0 whole
  let lost := whole.length - kept
  if fraction.isNone && shift.isNone && lost = 0 then
    return .integer (if negative then -n else n)
  let (n, places) := append n (fraction.getD [])
  let exponent : Int := lost - places
  return .double (← (← Double.ofNat? n).scale? (exponent + shift.getD 0))

/-- Reads a number. -/
def number : Reader Number := do
  let negative ← accept ['-']
  let whole ← span1 Char.isDigit
  if whole.head? == some '0' && whole.length > 1 then failure
  let fraction ← if ← accept ['.'] then some <$> span1 Char.isDigit else pure none
  let shift ← exponent
  ofOption (ofDigits? negative whole fraction shift)

/-! ### Values -/

/-- Reads items with commas between them up to the closing character. -/
def items {α : Type} (close : Char) (item : Reader α) : Reader (List α) := do
  blanks
  if ← accept [close] then
    return []
  loop (fun done => do
    blanks
    let done := (← item) :: done
    blanks
    if ← accept [','] then
      return .inl done
    else
      expect [close]
      return .inr done.reverse) []

/-- Reads a value that may hold values nested less than `depth` deep. -/
def value : Nat → Reader Value
  | 0 => failure
  | depth + 1 => do
    match ← peek? with
    | some '"' => return .text (← text)
    | some 'n' => expect "null".toList; return .null
    | some 't' => expect "true".toList; return .bool true
    | some 'f' => expect "false".toList; return .bool false
    | some '[' =>
      expect ['[']
      if depth = 0 then failure
      return .list (← items ']' (value depth))
    | some '\x7b' =>
      expect ['\x7b']
      if depth = 0 then failure
      let entries ← items '\x7d' do
        let name ← text
        blanks
        expect [':']
        blanks
        return (name, ← value depth)
      return .table (entries.foldl (fun t (name, v) => Table.set name v t) [])
    | _ => return .number (← number)

/-- The table that a document is. -/
def document? (cs : List Char) : Option Table :=
  let whole : Reader Value := do
    blanks
    let v ← value maxDepth
    blanks
    return v
  match whole.all? cs with
  | some (.table t) => some t
  | _ => none

end LineGlob.Json

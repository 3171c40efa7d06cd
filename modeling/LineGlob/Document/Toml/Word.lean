/-
Numbers, dates and times in TOML.

All of these are words that start with a digit or a sign, apart from the names of
infinities and of no number.  Underscores may stand between digits.  An integer has to
fit 64 bits and a decimal a double; a date or a time is a text.
-/
import LineGlob.Document.Reader

namespace LineGlob.Toml

open Reader

/-! ### Numbers -/

/-- Digits without the underscores between them. -/
def ungrouped? (isDigit : Char → Bool) : List Char → Option (List Char)
  | [] => none
  | [c] => if isDigit c then some [c] else none
  | c :: '_' :: cs => if isDigit c then (ungrouped? isDigit cs).map (c :: ·) else none
  | c :: cs => if isDigit c then (ungrouped? isDigit cs).map (c :: ·) else none

/-- An integer, unless it is too large. -/
def integer? (n : Int) : Option Number :=
  if Number.fits64 n then some (.integer n) else none

/-- A decimal, unless it is too large. -/
def decimal? (whole fraction : List Char) (exponent : Int) : Option Number :=
  match Number.ofDecimal whole fraction exponent with
  | .unbounded => none
  | n => some n

/-- The exponent of a decimal, which comes after its letter. -/
def exponent? (cs : List Char) : Option Int :=
  let size (digits : List Char) : Option Nat :=
    (ungrouped? Char.isDigit digits).map (Number.ofDigits 10)
  match cs with
  | '-' :: digits => (size digits).map fun n => -n
  | '+' :: digits => (size digits).map fun n => n
  | digits => (size digits).map fun n => n

/-- A number without its sign. -/
def unsigned? (negative : Bool) (cs : List Char) : Option Number := do
  let isGroup (c : Char) : Bool := c.isDigit || c == '_'
  let whole ← ungrouped? Char.isDigit (cs.takeWhile isGroup)
  guard (whole.length = 1 || whole.head? != some '0')
  match cs.dropWhile isGroup with
  | [] =>
    let n : Int := Number.ofDigits 10 whole
    integer? (if negative then -n else n)
  | '.' :: rest =>
    let fraction ← ungrouped? Char.isDigit (rest.takeWhile isGroup)
    match rest.dropWhile isGroup with
    | [] => decimal? whole fraction 0
    | e :: rest =>
      guard (e == 'e' || e == 'E')
      decimal? whole fraction (← exponent? rest)
  | e :: rest =>
    guard (e == 'e' || e == 'E')
    decimal? whole [] (← exponent? rest)

/-- The number that a word stands for. -/
def number? (word : List Char) : Option Number :=
  let based (base : Nat) (isDigit : Char → Bool) (digits : List Char) : Option Number := do
    integer? (Number.ofDigits base (← ungrouped? isDigit digits))
  match word with
  | '0' :: 'x' :: digits => based 16 isHex digits
  | '0' :: 'o' :: digits => based 8 (fun c => '0' ≤ c && c ≤ '7') digits
  | '0' :: 'b' :: digits => based 2 (fun c => c == '0' || c == '1') digits
  | _ =>
    let (negative, body) :=
      match word with
      | '-' :: body => (true, body)
      | '+' :: body => (false, body)
      | body => (false, body)
    if body = "inf".toList || body = "nan".toList then some .unbounded
    else unsigned? negative body

/-! ### Dates and times -/

/-- Takes a number of so many digits within bounds, and returns the digits. -/
def field (digits least greatest : Nat) : Reader (List Char) := do
  let cs ← count digits Char.isDigit
  let n := Number.ofDigits 10 cs
  if least ≤ n && n ≤ greatest then return cs else failure

/-- The number of days of a month. -/
def daysOf (year month : Nat) : Nat :=
  if month = 2 then
    if year % 4 = 0 && (year % 100 != 0 || year % 400 = 0) then 29 else 28
  else if month = 4 || month = 6 || month = 9 || month = 11 then 30
  else 31

/-- Reads a date. -/
def date : Reader (List Char) := do
  let year ← field 4 0 9999
  expect ['-']
  let month ← field 2 1 12
  expect ['-']
  let day ← field 2 1 (daysOf (Number.ofDigits 10 year) (Number.ofDigits 10 month))
  return year ++ ['-'] ++ month ++ ['-'] ++ day

/-- The text of a fraction of a second: nine digits of it are kept, less the zeros at their end, but
one digit at least. -/
def fractionText (digits : List Char) : List Char :=
  match ((digits.take 9).reverse.dropWhile (· == '0')).reverse with
  | [] => ['.', '0']
  | kept => '.' :: kept

/-- Reads a time of day, with or without seconds. -/
def time : Reader (List Char) := do
  let hour ← field 2 0 23
  expect [':']
  let minute ← field 2 0 59
  let minutes := hour ++ [':'] ++ minute
  if ← accept [':'] then
    let second ← field 2 0 60
    let fraction ← if ← accept ['.'] then fractionText <$> span1 Char.isDigit else pure []
    return minutes ++ [':'] ++ second ++ fraction
  else
    return minutes

/-- Reads the distance of a time from universal time, if one is given.  No distance is a positive
one. -/
def offset : Reader (List Char) := do
  if (← accept ['Z']) || (← accept ['z']) then return ['Z']
  let sign ← if ← accept ['+'] then pure ['+'] else if ← accept ['-'] then pure ['-'] else pure []
  if sign.isEmpty then return []
  let hour ← field 2 0 23
  expect [':']
  let minute ← field 2 0 59
  let isNone := (hour ++ minute).all (· == '0')
  return (if isNone then ['+'] else sign) ++ hour ++ [':'] ++ minute

/-- Reads a date, a time, or both, and returns its text. -/
def dateTime : Reader String := do
  let rest ← get
  if rest[2]? == some ':' then
    return String.ofList (← time)
  else
    let day ← date
    let separated := (← accept ['T']) || (← accept ['t']) || (← accept [' '])
    if separated then
      return String.ofList (day ++ ['T'] ++ (← time) ++ (← offset))
    else
      return String.ofList day

/-- Whether a character may stand in a number, a date or a time. -/
def isWord (c : Char) : Bool :=
  c.isAlphanum || c == '+' || c == '-' || c == '_' || c == '.' || c == ':'

/-- Reads a number, a date or a time. -/
def word : Reader Value := do
  let cs ← span1 isWord
  match number? cs with
  | some n => return .number n
  | none =>
    -- a blank may stand between a date and a time, and after a date alone
    let rest ← get
    let both := cs.length = 10 && rest.head? == some ' ' && (rest[1]?.any Char.isDigit)
    let later ← if both then (do let _ ← next; span1 isWord) else pure []
    let written := if both then cs ++ [' '] ++ later else cs
    match dateTime.all? written with
    | some s => return .text s
    | none => failure

end LineGlob.Toml

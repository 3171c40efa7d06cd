/-
Reading a text from left to right.

A reader takes characters off the front of a text and may refuse to go on.  What is
read in a loop is bounded by the characters that are left: a step that takes none ends
the loop.
-/
import LineGlob.Document.Value

namespace LineGlob

/-- Repeats a step that changes a state until it says that it is done, but not more often than the
given number of times.  What the step reads from is of type `τ`. -/
def iterate {τ σ β : Type} (step : σ → StateT τ Option (σ ⊕ β)) :
    Nat → σ → StateT τ Option β
  | 0, _ => failure
  | times + 1, s => do
    match ← step s with
    | .inl s => iterate step times s
    | .inr b => return b

/-- A way to read something off the front of a text. -/
abbrev Reader := StateT (List Char) Option

namespace Reader

/-- The next character, which is left where it is. -/
def peek? : Reader (Option Char) := do
  return (← get).head?

/-- Whether the text goes on with the given characters. -/
def startsWith (cs : List Char) : Reader Bool := do
  return cs.isPrefixOf (← get)

/-- Takes one character. -/
def next : Reader Char := do
  match ← get with
  | c :: rest => set rest; return c
  | [] => failure

/-- Takes the given characters if the text goes on with them, and tells whether it does. -/
def accept (cs : List Char) : Reader Bool := do
  if ← startsWith cs then
    modify (·.drop cs.length)
    return true
  else
    return false

/-- Takes the given characters. -/
def expect (cs : List Char) : Reader Unit := do
  unless ← accept cs do failure

/-- Takes characters as long as they satisfy a condition. -/
def span (p : Char → Bool) : Reader (List Char) := do
  let cs ← get
  set (cs.dropWhile p)
  return cs.takeWhile p

/-- Takes characters that satisfy a condition, at least one. -/
def span1 (p : Char → Bool) : Reader (List Char) := do
  match ← span p with
  | [] => failure
  | cs => return cs

/-- Takes a given number of characters that satisfy a condition. -/
def count (n : Nat) (p : Char → Bool) : Reader (List Char) := do
  let cs ← get
  let taken := cs.take n
  if taken.length = n && taken.all p then
    set (cs.drop n)
    return taken
  else
    failure

/-- Takes a value out of an option, or refuses to go on. -/
def ofOption {α : Type} : Option α → Reader α
  | some a => return a
  | none => failure

/-- Refuses to go on unless the text has ended. -/
def finish : Reader Unit := do
  unless (← get).isEmpty do failure

/-- Repeats a step that changes a state until it says that it is done. -/
def loop {σ β : Type} (step : σ → Reader (σ ⊕ β)) (start : σ) : Reader β := do
  iterate step ((← get).length + 1) start

/-- Collects what a step yields until it yields nothing more. -/
def many {α : Type} (step : Reader (Option α)) : Reader (List α) :=
  loop (fun done => do
    match ← step with
    | some a => return .inl (a :: done)
    | none => return .inr done.reverse) []

/-- Reads a whole text. -/
def all? {α : Type} (r : Reader α) (cs : List Char) : Option α :=
  ((do let a ← r; finish; return a : Reader α).run cs).map (·.1)

/-- Whether a character is a hexadecimal digit. -/
def isHex (c : Char) : Bool :=
  c.isDigit || ('a' ≤ c && c ≤ 'f') || ('A' ≤ c && c ≤ 'F')

/-- Takes an escaped character given by so many hexadecimal digits, which has to be a code point
of a character. -/
def codePoint (digits : Nat) : Reader Char := do
  let code := Number.ofDigits 16 (← count digits isHex)
  if code < 0xD800 || (0xE000 ≤ code && code < 0x110000) then
    return Char.ofNat code
  else
    failure

/-- Takes digits of an exponent after the letter `e`, in either case, if that comes next. -/
def exponent : Reader (Option Int) := do
  if (← accept ['e']) || (← accept ['E']) then
    let negative ← accept ['-']
    unless negative do
      let _ ← accept ['+']
    let size := Number.ofDigits 10 (← span1 Char.isDigit)
    return some (if negative then -size else size)
  else
    return none

end Reader

end LineGlob

/-
A run of tokens, and the three ways of looking for it in a text.

A block takes as many characters as it has tokens.  `endAt` tries it at one place,
`firstEnd` at every place from one on, and `endsText` only where the text would end
with it.  All three take a place as a byte offset and slice the text there, so each
of them can refuse an offset that is off a character boundary.  They are written once,
for any monad that slices texts (`endAtM`, `firstEndM`, `endsTextM`), and the plain ones
only want the result.

A block that consists of characters alone, compared as they are, also has its text at
hand.  Such a block is looked for as bytes: the result is the same, and a byte search
needs no decoding.
-/
import LineGlob.Pattern.Token
import LineGlob.Text.Offset

namespace LineGlob

open Text (OffBoundary Slicer)

/-- A run of tokens, each taking exactly one character. -/
structure Block where
  tokens : List Token
  /-- The one text the block stands for, where the tokens spell it out. -/
  literal : Option (List Char)
deriving DecidableEq, Repr

namespace Block

/-- The characters that a list of tokens spells, if each of them is a plain character. -/
def spelled? : List Token → Option (List Char)
  | [] => some []
  | .char c :: ts => (spelled? ts).map (c :: ·)
  | _ :: _ => none

/-- The block of the given tokens.  It has a text if it compares characters as they are, is not
empty and is made of characters alone. -/
def ofTokens (fold : Bool) (tokens : List Token) : Block where
  tokens := tokens
  literal := if fold || tokens.isEmpty then none else spelled? tokens

/-- The end of the characters that the tokens admit one by one, the text starting at `pos`. -/
def take? (fold : Bool) : List Token → List Char → Nat → Option Nat
  | [], _, pos => some pos
  | _ :: _, [], _ => none
  | t :: ts, c :: cs, pos =>
    if t.admits fold c then take? fold ts cs (pos + c.utf8Size) else none

/-! ### Looking for a block -/

section

variable {m : Type → Type} [Monad m] [Slicer m]

/-- Matches the block exactly at a place and returns where it ends. -/
def endAtM (b : Block) (fold : Bool) (text : List Char) (pos : Nat) : m (Option Nat) := do
  Slicer.use (.asked pos)
  let rest ← Slicer.slice text pos
  match b.literal with
  | some word =>
    if (Text.encode word).isPrefixOf (Text.encode rest) then
      return some (pos + Text.size word)
    else
      return none
  | none => return take? fold b.tokens rest pos

/-- Where the block ends at the first of the given places at which it matches. -/
def firstMatchM (b : Block) (fold : Bool) (text : List Char) : List Nat → m (Option Nat)
  | [] => return none
  | pos :: later => do
    match ← b.endAtM fold text pos with
    | some stop => return some stop
    | none => b.firstMatchM fold text later

/-- Finds the leftmost occurrence of the block at or after a place and returns where it ends. -/
def firstEndM (b : Block) (fold : Bool) (text : List Char) (pos : Nat) : m (Option Nat) := do
  Slicer.use (.asked pos)
  match b.literal with
  | some word =>
    let rest ← Slicer.slice text pos
    return (Text.firstOccurrence? (Text.encode word) (Text.encode rest)).map
      (pos + · + Text.size word)
  | none =>
    if b.tokens.isEmpty then
      return some pos
    else
      let rest ← Slicer.slice text pos
      b.firstMatchM fold text (Text.starts pos rest)

/-- Whether the text ends with the block and the block starts at or after a place. -/
def endsTextM (b : Block) (fold : Bool) (text : List Char) (pos : Nat) : m Bool := do
  Slicer.use (.asked pos)
  let rest ← Slicer.slice text pos
  match b.literal with
  | some word => return (Text.encode word).isSuffixOf (Text.encode rest)
  | none =>
    match b.tokens.length with
    | 0 => return true
    | before + 1 =>
      match (Text.starts pos rest).reverse[before]? with
      | some start => return (← b.endAtM fold text start) == some (Text.size text)
      | none => return false

end

/-! ### Results alone -/

/-- The result of `endAtM`, or an offset that is no place in the text. -/
def endAt (b : Block) (fold : Bool) (text : List Char) (pos : Nat) :
    Except OffBoundary (Option Nat) :=
  b.endAtM fold text pos

/-- The result of `firstMatchM`, or an offset that is no place in the text. -/
def firstMatch (b : Block) (fold : Bool) (text : List Char) (places : List Nat) :
    Except OffBoundary (Option Nat) :=
  b.firstMatchM fold text places

/-- The result of `firstEndM`, or an offset that is no place in the text. -/
def firstEnd (b : Block) (fold : Bool) (text : List Char) (pos : Nat) :
    Except OffBoundary (Option Nat) :=
  b.firstEndM fold text pos

/-- The result of `endsTextM`, or an offset that is no place in the text. -/
def endsText (b : Block) (fold : Bool) (text : List Char) (pos : Nat) : Except OffBoundary Bool :=
  b.endsTextM fold text pos

end Block

end LineGlob

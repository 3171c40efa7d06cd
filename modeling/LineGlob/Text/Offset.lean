/-
Texts and the byte offsets into them.

A text is a list of characters.  Everything that reports a place in a text reports
it as an offset into the text's UTF-8 bytes, and not every such offset is a place:
one that falls inside a character's bytes has no text after it.  `slice` therefore
refuses an offset that is off a character boundary, and whoever computes offsets
has to know that they stay on boundaries.

Which offsets a computation uses does not show in what it comes to.  `Slicer` is what a
computation that slices texts asks of the monad it runs in: a slice, and somewhere to say
what each offset is used for.  Whether that is written down is up to the monad.

`firstOccurrence?` searches bytes and knows nothing of characters.  What makes it
safe to use on texts is a property of UTF-8 itself: the first byte of a character
never occurs inside another one.
-/
namespace LineGlob.Text

/-! ### Sizes and bytes -/

/-- The number of bytes of a text. -/
def size : List Char → Nat
  | [] => 0
  | c :: cs => c.utf8Size + size cs

@[simp] theorem size_nil : size [] = 0 := rfl

@[simp] theorem size_cons (c : Char) (cs : List Char) : size (c :: cs) = c.utf8Size + size cs := rfl

@[simp] theorem size_append (cs ds : List Char) : size (cs ++ ds) = size cs + size ds := by
  induction cs with
  | nil => simp
  | cons c cs ih => simp [ih, Nat.add_assoc]

/-- The bytes of a text. -/
def encode (cs : List Char) : List UInt8 :=
  cs.flatMap String.utf8EncodeChar

@[simp] theorem encode_nil : encode [] = [] := rfl

@[simp] theorem encode_cons (c : Char) (cs : List Char) :
    encode (c :: cs) = String.utf8EncodeChar c ++ encode cs := rfl

@[simp] theorem encode_append (cs ds : List Char) : encode (cs ++ ds) = encode cs ++ encode ds := by
  simp [encode]

/-! ### Places in a text -/

/-- An offset was used at which no character starts and the text does not end. -/
structure OffBoundary where
  pos : Nat
deriving DecidableEq, Repr

/-- The text from an offset on, or nothing if the offset is not a place in the text. -/
def from? : List Char → Nat → Option (List Char)
  | cs, 0 => some cs
  | [], _ + 1 => none
  | c :: cs, pos + 1 => if c.utf8Size ≤ pos + 1 then from? cs (pos + 1 - c.utf8Size) else none

@[simp] theorem from?_zero (cs : List Char) : from? cs 0 = some cs := by
  cases cs <;> rfl

/-- An offset is a place in a text if a character starts there or the text ends there. -/
def IsBoundary (cs : List Char) (pos : Nat) : Prop :=
  (from? cs pos).isSome

instance (cs : List Char) (pos : Nat) : Decidable (IsBoundary cs pos) :=
  inferInstanceAs (Decidable ((from? cs pos).isSome = true))

/-- The text from an offset on. -/
def slice (cs : List Char) (pos : Nat) : Except OffBoundary (List Char) :=
  match from? cs pos with
  | some rest => .ok rest
  | none => .error ⟨pos⟩

/-- The offsets at which the characters of a text start, the text itself starting at `pos`. -/
def starts (pos : Nat) : List Char → List Nat
  | [] => []
  | c :: cs => pos :: starts (pos + c.utf8Size) cs

/-! ### Computations that use places -/

/-- What an offset is used for. -/
inductive Use where
  /-- The loop over the blocks of a pattern has reached the offset. -/
  | reached (pos : Nat)
  /-- A block is asked about the text at or behind the offset. -/
  | asked (pos : Nat)
  /-- The text is sliced at the offset. -/
  | sliced (pos : Nat)
deriving DecidableEq, Repr

/-- A monad for computations that slice texts. -/
class Slicer (m : Type → Type) where
  /-- Is told what an offset is going to be used for. -/
  use : Use → m Unit
  /-- The text from an offset on. -/
  slice : List Char → Nat → m (List Char)

/-- A computation of which only the result matters. -/
instance : Slicer (Except OffBoundary) where
  use _ := .ok ()
  slice := slice

/-! ### Searching bytes -/

/-- How many bytes precede the first occurrence of `needle`. -/
def firstOccurrence? (needle : List UInt8) : List UInt8 → Option Nat
  | [] => if needle.isEmpty then some 0 else none
  | b :: bs =>
    if needle.isPrefixOf (b :: bs) then some 0 else (firstOccurrence? needle bs).map (· + 1)

end LineGlob.Text

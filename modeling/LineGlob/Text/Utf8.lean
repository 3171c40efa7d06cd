/-
Reading bytes as a text.

Files, arguments and paths are bytes, and nothing promises that they are UTF-8.
`pieces` splits any bytes into characters and broken sequences without losing a byte.
A broken sequence is as long as it could still have become a character: it ends before
the first byte that no character could have had there.

The two readings of bytes that the program needs are both made from the pieces: the
lossy text has one replacement character for each broken sequence, and the quoted form
(`Text/Quoted`) shows the broken bytes.
-/
import LineGlob.Text.Offset

namespace LineGlob

/-- What files, arguments and paths consist of. -/
abbrev Bytes := List UInt8

namespace Text

/-- A stretch of bytes as far as it can be read. -/
inductive Piece where
  | char (c : Char)
  /-- The start of a character that is not continued, or a byte that starts none. -/
  | broken (bytes : Bytes)
deriving DecidableEq, Repr

namespace Piece

/-- How a character goes on after its first byte. -/
structure Lead where
  /-- The bits of the code point that the first byte holds. -/
  bits : Nat
  /-- The number of bytes that follow. -/
  more : Nat
  /-- The least byte that may come second. -/
  least : UInt8
  /-- The greatest byte that may come second. -/
  greatest : UInt8

/-- How a character that starts with `b` goes on, unless none does.  The bounds on the second byte
keep out longer spellings than needed, surrogates, and code points beyond the last one. -/
def lead? (b : UInt8) : Option Lead :=
  if b < 0x80 then some ⟨b.toNat, 0, 0x80, 0xBF⟩
  else if b < 0xC2 then none
  else if b < 0xE0 then some ⟨b.toNat - 0xC0, 1, 0x80, 0xBF⟩
  else if b = 0xE0 then some ⟨0x0, 2, 0xA0, 0xBF⟩
  else if b = 0xED then some ⟨0xD, 2, 0x80, 0x9F⟩
  else if b < 0xF0 then some ⟨b.toNat - 0xE0, 2, 0x80, 0xBF⟩
  else if b = 0xF0 then some ⟨0x0, 3, 0x90, 0xBF⟩
  else if b < 0xF4 then some ⟨b.toNat - 0xF0, 3, 0x80, 0xBF⟩
  else if b = 0xF4 then some ⟨0x4, 3, 0x80, 0x8F⟩
  else none

/-- Reads the bytes that a character still lacks.  `seen` are its bytes so far, latest first. -/
def complete (code : Nat) (seen : Bytes) (least greatest : UInt8) : Nat → Bytes → Piece × Bytes
  | 0, bytes => (char (Char.ofNat code), bytes)
  | _ + 1, [] => (broken seen.reverse, [])
  | more + 1, b :: bytes =>
    if least ≤ b ∧ b ≤ greatest then
      complete (code * 64 + (b.toNat - 0x80)) (b :: seen) 0x80 0xBF more bytes
    else
      (broken seen.reverse, b :: bytes)

/-- Reads the piece that starts with `b`, and returns what follows it. -/
def next (b : UInt8) (bytes : Bytes) : Piece × Bytes :=
  match lead? b with
  | some l => complete l.bits [b] l.least l.greatest l.more bytes
  | none => (broken [b], bytes)

theorem length_complete_le (code : Nat) (seen : Bytes) (least greatest : UInt8) (more : Nat)
    (bytes : Bytes) :
    (complete code seen least greatest more bytes).2.length ≤ bytes.length := by
  fun_induction complete code seen least greatest more bytes with
  | case1 => simp
  | case2 => simp
  | case3 _ _ _ _ more b bytes _ ih => simp only [List.length_cons]; omega
  | case4 => simp

/-- Reading a piece never returns more than what followed its first byte. -/
theorem length_next_le (b : UInt8) (bytes : Bytes) : (next b bytes).2.length ≤ bytes.length := by
  unfold next
  split
  · exact length_complete_le ..
  · simp

end Piece

/-- The pieces of any bytes. -/
def pieces : Bytes → List Piece
  | [] => []
  | b :: bytes => (Piece.next b bytes).1 :: pieces (Piece.next b bytes).2
termination_by bytes => bytes.length
decreasing_by
  have := Piece.length_next_le b bytes
  simp only [List.length_cons]
  omega

/-- Stands for what could not be read. -/
def replacement : Char := '\uFFFD'

/-- The text of any bytes, with one replacement character for each broken sequence. -/
def decodeLossy (bytes : Bytes) : List Char :=
  (pieces bytes).map fun
    | .char c => c
    | .broken _ => replacement

/-- The text of bytes that are UTF-8 throughout. -/
def decode? (bytes : Bytes) : Option (List Char) :=
  (pieces bytes).mapM fun
    | .char c => some c
    | .broken _ => none

end Text

end LineGlob

/-
A pattern in the form in which it is matched.

The blocks of a program are what stands between the stars of a pattern.  The first
block is tied to the start of the text and the last one to its end; with no star at
all these are the same block, which then has to be the whole text.

Matching never goes back.  Every block has a fixed number of characters, so taking
the leftmost occurrence of each block in turn leaves the most text for those that
follow, and the last block is looked for at the very end of what is left.
-/
import LineGlob.Pattern.Block

namespace LineGlob

open Text (OffBoundary Slicer)

/-- The blocks of a pattern, and whether letter case is folded. -/
structure Program where
  /-- The block at the start of the text. -/
  head : Block
  /-- The later blocks, each preceded by a star. -/
  tail : List Block
  fold : Bool
deriving DecidableEq, Repr

namespace Program

/-- The program that matches the empty text alone. -/
instance : Inhabited Program := ⟨⟨⟨[], none⟩, [], false⟩⟩

/-- All blocks in order. -/
def blocks (p : Program) : List Block :=
  p.head :: p.tail

/-! ### Matching -/

section

variable {m : Type → Type} [Monad m] [Slicer m]

/-- Whether the text from `pos` on is matched by the given blocks, each preceded by a star. -/
def matchTailM (fold : Bool) (text : List Char) (pos : Nat) : List Block → m Bool
  | [] => do
    Slicer.use (.reached pos)
    return pos == Text.size text
  | [last] => do
    Slicer.use (.reached pos)
    last.endsTextM fold text pos
  | block :: next :: later => do
    Slicer.use (.reached pos)
    match ← block.firstEndM fold text pos with
    | some stop => matchTailM fold text stop (next :: later)
    | none => return false

/-- Matches a whole text. -/
def runM (p : Program) (text : List Char) : m Bool := do
  match ← p.head.endAtM p.fold text 0 with
  | some stop => matchTailM p.fold text stop p.tail
  | none => return false

end

/-- The result of `matchTailM`, or an offset that is no place in the text. -/
def matchTail (fold : Bool) (text : List Char) (pos : Nat) (blocks : List Block) :
    Except OffBoundary Bool :=
  matchTailM fold text pos blocks

/-- Matches a whole text, reporting an offset that is no place in it. -/
def run (p : Program) (text : List Char) : Except OffBoundary Bool :=
  p.runM text

/-- Whether a program matches a whole text. -/
def isMatch (p : Program) (text : List Char) : Bool :=
  match p.run text with
  | .ok answer => answer
  | .error _ => false

end Program

end LineGlob

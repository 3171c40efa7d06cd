/-
Where the selected lines go.

An output may refuse to take more than so many bytes, and it may fail to pass on what
it took.  What it has taken up to a failure stays written.
-/
import LineGlob.IoError
import LineGlob.Text.Utf8

namespace LineGlob

/-- An output, with what has been written to it. -/
structure Output where
  written : Array UInt8
  /-- How many more bytes it takes, and how it fails after them. -/
  limit : Option (Nat × IoError)
  /-- How it fails to pass on what it took. -/
  flushFailure : Option IoError
deriving DecidableEq, Repr

namespace Output

/-- An output that takes everything. -/
def unlimited : Output := ⟨#[], none, none⟩

/-- An output that takes so many bytes and refuses any further one. -/
def limited (room : Nat) (failure : IoError) : Output := ⟨#[], some (room, failure), none⟩

/-- An output that takes everything but cannot pass it on. -/
def unflushable (failure : IoError) : Output := ⟨#[], none, some failure⟩

/-- Writes bytes, as many as the output takes, and returns how it fails if these are not all. -/
def write (o : Output) (bytes : Bytes) : Output × Option IoError :=
  match o.limit with
  | none => ({ o with written := o.written ++ bytes }, none)
  | some (room, failure) =>
    if bytes.length ≤ room then
      ({ o with written := o.written ++ bytes, limit := some (room - bytes.length, failure) }, none)
    else
      ({ o with written := o.written ++ bytes.take room, limit := some (0, failure) }, some failure)

end Output

end LineGlob

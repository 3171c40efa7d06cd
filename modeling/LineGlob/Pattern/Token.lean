/-
What one character of a text is compared with.

A token admits or refuses a single character.  A set keeps its members in strictly
increasing order, which is what lets `Token.admits` look a character up by halving
instead of by walking, and what makes two sets with the same members the same token.
-/
import LineGlob.Increasing
import LineGlob.Text.Fold

namespace LineGlob

/-- What stands for exactly one character. -/
inductive Token where
  /-- Any character. -/
  | any
  /-- This character alone. -/
  | char (c : Char)
  /-- One of these characters, listed in strictly increasing order. -/
  | set (members : Array Char)
deriving DecidableEq, Repr

namespace Token

/-- Whether `c` is among the members from index `lo` up to `hi`, which are in increasing order. -/
def search (members : Array Char) (c : Char) (lo hi : Nat) : Bool :=
  if lo < hi then
    let mid := lo + (hi - lo) / 2
    match members[mid]? with
    | none => false
    | some m =>
      if c = m then true
      else if c < m then search members c lo mid
      else search members c (mid + 1) hi
  else false
termination_by hi - lo
decreasing_by all_goals omega

/-- Whether a token stands for a character.  With `fold` set the character is folded first;
the token's own characters have been folded when it was made. -/
def admits (fold : Bool) (t : Token) (c : Char) : Bool :=
  let c := if fold then Text.fold c else c
  match t with
  | any => true
  | char expected => expected == c
  | set members => search members c 0 members.size

/-! ### Making sets -/

/-- The set of the characters of a list. -/
def ofMembers (cs : List Char) : Token :=
  set (sortUnique cs).toArray

end Token

end LineGlob

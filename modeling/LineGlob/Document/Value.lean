/-
The values that settings files hold.

Whatever the format of a file, what is read from it is a value: nothing, a truth value,
a number, a text, a list, or a table of named values.  Of a number the settings ask one
thing only, whether it is zero, and they ask it of the number as a double holds it: a
decimal too small to be told from zero counts as zero.
-/
import LineGlob.Document.Double

namespace LineGlob

/-- A number.  Of a double the sign is left out. -/
inductive Number where
  | integer (n : Int)
  | double (d : Double)
  /-- An infinity, or no number at all. -/
  | unbounded
deriving DecidableEq, Repr

namespace Number

/-- The number that digits stand for in a base up to sixteen. -/
def ofDigits (base : Nat) (digits : List Char) : Nat :=
  digits.foldl (fun n c => n * base + digit c) 0
where
  /-- The value of a single digit. -/
  digit (c : Char) : Nat :=
    if c.isDigit then c.toNat - '0'.toNat
    else if c.isLower then c.toNat - 'a'.toNat + 10
    else c.toNat - 'A'.toNat + 10

/-- The decimal with these digits before and after the point, shifted by `exponent` places. -/
def ofDecimal (whole fraction : List Char) (exponent : Int) : Number :=
  match Double.ofDecimal? (ofDigits 10 (whole ++ fraction)) (exponent - fraction.length) with
  | some d => double d
  | none => unbounded

/-- Whether a number is zero. -/
def isZero : Number → Bool
  | integer n => n = 0
  | double d => d.units = 0
  | unbounded => false

/-- Whether an integer fits into 64 bits with a sign. -/
def fits64 (n : Int) : Bool :=
  -Nat.pow 2 63 ≤ n ∧ n < Nat.pow 2 63

end Number

/-- A value of a settings file. -/
inductive Value where
  | null
  | bool (b : Bool)
  | number (n : Number)
  | text (s : String)
  | list (values : List Value)
  | table (entries : List (String × Value))
deriving Repr, Inhabited

/-- Named values in the order in which the names first occurred. -/
abbrev Table := List (String × Value)

namespace Table

/-- The value of a name. -/
def get? (t : Table) (name : String) : Option Value :=
  List.lookup name t

/-- Sets the value of a name.  A new name comes last. -/
def set (name : String) (v : Value) : Table → Table
  | [] => [(name, v)]
  | (n, w) :: t => if n = name then (n, v) :: t else (n, w) :: set name v t

end Table

end LineGlob

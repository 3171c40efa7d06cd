/-
Doubles.

A finite double without its sign is a multiple of the least one, `2 ^ -1074`, and it is
kept as that multiple.  Whatever is computed with doubles is rounded to the nearest
one; of two that are equally near it is the one whose last bit is zero.
-/
namespace LineGlob

/-- The size of a finite double, counted in the least one, `2 ^ -1074`. -/
structure Double where
  units : Nat
deriving DecidableEq, Repr

namespace Double

/-- The units that make up one. -/
def unitsOfOne : Nat := Nat.pow 2 1074

/-- The whole number nearest to `num / den`, the even one of two. -/
def nearest (num den : Nat) : Nat :=
  let whole := num / den
  let rest := 2 * (num % den)
  if rest < den || (rest = den && whole % 2 = 0) then whole else whole + 1

/-- The double nearest to `num / den` units, unless it is beyond the greatest one.  A double has
53 bits, so all bits but these are rounded away. -/
def ofRatio? (num den : Nat) : Option Double :=
  let lost := Nat.pow 2 ((num / den).log2 - 52)
  let units := nearest num (den * lost) * lost
  if units < Nat.pow 2 1024 * unitsOfOne then some ⟨units⟩ else none

/-- The double nearest to a whole number. -/
def ofNat? (n : Nat) : Option Double :=
  ofRatio? (n * unitsOfOne) 1

/-- The product of two doubles. -/
def mul? (a b : Double) : Option Double :=
  ofRatio? (a.units * b.units) unitsOfOne

/-- The quotient of two doubles. -/
def div? (a b : Double) : Option Double :=
  ofRatio? (a.units * unitsOfOne) b.units

/-- The double nearest to `mantissa · 10 ^ exponent`. -/
def ofDecimal? (mantissa : Nat) (exponent : Int) : Option Double :=
  if mantissa = 0 then some ⟨0⟩
  else if 0 ≤ exponent then
    -- nothing but zero has so many places
    if exponent > 308 then none else ofNat? (mantissa * Nat.pow 10 exponent.toNat)
  else
    let places := (-exponent).toNat
    -- a mantissa has at most a third as many digits as bits, and one more
    if places > mantissa.log2 / 3 + 340 then some ⟨0⟩
    else ofRatio? (mantissa * unitsOfOne) (Nat.pow 10 places)

/-- The double `d · 10 ^ exponent`, computed in steps that are rounded one by one: a power of ten
is a double only up to the 308th. -/
def scale? (d : Double) (exponent : Int) : Option Double :=
  if d.units = 0 then some d
  else if 308 < exponent then none
  else if 0 ≤ exponent then do d.mul? (← ofNat? (Nat.pow 10 exponent.toNat))
  else if -308 ≤ exponent then do d.div? (← ofNat? (Nat.pow 10 (-exponent).toNat))
  else do
    let d ← d.div? (← ofNat? (Nat.pow 10 308))
    d.scale? (exponent + 308)
termination_by (-exponent).toNat

end Double

end LineGlob

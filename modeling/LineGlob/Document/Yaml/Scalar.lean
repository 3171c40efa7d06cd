/-
What the words of a YAML document stand for.

A word without marks is looked at: it may be a number, a truth value or nothing, and
only if it is none of these a text.  A tag can settle the matter instead, and a word
that does not fit its tag cannot be used.  Words in marks are always texts.
-/
import LineGlob.Document.Yaml.Tag

namespace LineGlob.Yaml

open Reader

/-- What a word stands for. -/
inductive Scalar where
  /-- Nothing that could be used. -/
  | unusable
  | null
  | bool (b : Bool)
  | integer (n : Int)
  /-- A decimal, an infinity or no number, as it is written. -/
  | decimal (text : List Char)
  | text (cs : List Char)
deriving DecidableEq, Repr

namespace Scalar

/-- An integer of 64 bits in some base, with or without a sign. -/
def integer? (base : Nat) (isDigit : Char → Bool) (cs : List Char) : Option Int := do
  let (negative, digits) :=
    match cs with
    | '-' :: digits => (true, digits)
    | '+' :: digits => (false, digits)
    | digits => (false, digits)
  guard (!digits.isEmpty && digits.all isDigit)
  let size : Int := Number.ofDigits base digits
  let n := if negative then -size else size
  guard (Number.fits64 n)
  return n

/-- Reads a decimal with a point, an exponent or neither. -/
def decimalReader : Reader Number := do
  unless ← accept ['-'] do
    let _ ← accept ['+']
  let whole ← span Char.isDigit
  let fraction ← if ← accept ['.'] then span Char.isDigit else pure []
  if whole.isEmpty && fraction.isEmpty then failure
  return .ofDecimal whole fraction ((← exponent).getD 0)

/-- The number that a decimal stands for.  Infinities are not among them. -/
def number? (cs : List Char) : Option Number :=
  decimalReader.all? cs

/-- The words for infinities and for no number. -/
def unboundedWords : List String :=
  [ ".inf", ".Inf", ".INF", "+.inf", "+.Inf", "+.INF", "-.inf", "-.Inf", "-.INF",
    ".nan", ".NaN", ".NAN" ]

/-- Whether a word is written like a decimal. -/
def isDecimal (cs : List Char) : Bool :=
  unboundedWords.any (·.toList == cs) || (number? cs).isSome

/-- The truth value that a word stands for. -/
def truth? (cs : List Char) : Option Bool :=
  if ["true", "True", "TRUE"].any (·.toList == cs) then some true
  else if ["false", "False", "FALSE"].any (·.toList == cs) then some false
  else none

/-- What a word without marks stands for. -/
def ofWord (cs : List Char) : Scalar :=
  let based : Option Int :=
    match cs with
    | '0' :: 'x' :: digits => integer? 16 isHex digits
    | '0' :: 'o' :: digits => integer? 8 (fun c => '0' ≤ c && c ≤ '7') digits
    | '+' :: digits => integer? 10 Char.isDigit digits
    | _ => none
  match based with
  | some n => integer n
  | none =>
    if ["", "~", "null"].any (·.toList == cs) then null
    else
      match truth? cs with
      | some b => bool b
      | none =>
        match integer? 10 Char.isDigit cs with
        | some n => integer n
        | none => if isDecimal cs then decimal cs else text cs

/-- What a word without marks stands for under a tag. -/
def ofTagged : Tag → List Char → Scalar
  | .other, cs => text cs
  | .core kind, cs =>
    if kind = "bool".toList then
      match truth? cs with
      | some b => bool b
      | none => unusable
    else if kind = "int".toList then
      match integer? 10 Char.isDigit cs with
      | some n => integer n
      | none => unusable
    else if kind = "float".toList then
      if isDecimal cs then decimal cs else unusable
    else if kind = "null".toList then
      if ["~", "null"].any (·.toList == cs) then null else unusable
    else text cs

/-- The value of a scalar.  An infinity is none: settings cannot hold it. -/
def toValue? : Scalar → Option Value
  | unusable | null => some .null
  | bool b => some (.bool b)
  | integer n => some (.number (.integer n))
  | decimal cs => (number? cs).map .number
  | text cs => some (.text (String.ofList cs))

/-- The name that a scalar is as a key. -/
def toName? : Scalar → Option String
  | unusable | null => none
  | bool b => some (if b then "true" else "false")
  | integer n => some (if n < 0 then "-" ++ toString n.natAbs else toString n.natAbs)
  | decimal cs => some (String.ofList cs)
  | text cs => some (String.ofList cs)

end Scalar

end LineGlob.Yaml

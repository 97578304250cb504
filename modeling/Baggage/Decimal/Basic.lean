import Baggage.Decimal.Digits

/-!
# Baggage.Decimal.Basic

**Decimal numerals**: numbers as they are written down, before any arithmetic is chosen to
compute with them. A `Decimal` is a sign, a natural number and a power of ten; a `Numeral` is a
decimal or one of the words for an infinity and for an undefined result.

A decimal is read into the nearest double by `Decimal.toFloat` and into the rational that it
denotes by `Decimal.toRat`, so the same text can feed either arithmetic.
-/

namespace Baggage

/-- A decimal numeral, standing for `mantissa × 10 ^ exponent`, negated if `negative`. The sign
is kept apart because `-0` and `0` are different numerals. -/
structure Decimal where
  /-- Whether a minus sign stands in front. -/
  negative : Bool
  /-- The digits, read as one natural number. -/
  mantissa : Nat
  /-- The power of ten that the digits are scaled by. -/
  exponent : Int
  deriving DecidableEq, Repr

/-- A number as it may be written: a decimal, or a word for a value that no decimal denotes. -/
inductive Numeral where
  /-- A decimal numeral. -/
  | decimal (value : Decimal)
  /-- The word for an infinity, with its sign. -/
  | infinity (negative : Bool)
  /-- The word for an undefined result. -/
  | undefined
  deriving DecidableEq, Repr

namespace Decimal

/-- The decimal `mantissa × 10 ^ -places`. -/
def scaled (mantissa places : Nat) : Decimal := ⟨false, mantissa, -places⟩

/-- The decimal whose digits are `whole` before the point and `fraction` after it, times a power
of ten. -/
def ofDigits (negative : Bool) (whole fraction : List Char) (exponent : Int) : Decimal :=
  ⟨negative, digitsValue (whole ++ fraction), exponent - fraction.length⟩

/-- Whether the whole part of a decimal takes more than 1024 binary digits, which is more than any
double has. The power of ten is left alone if it exceeds the mantissa for certain. -/
def isBeyond (d : Decimal) : Bool :=
  1024 ≤ d.mantissa.log2 &&
    match d.exponent with
    | .ofNat _ => true
    | .negSucc e =>
      e < d.mantissa.log2 && 1024 ≤ (d.mantissa / Nat.pow 10 (e + 1)).log2

/-- The double nearest to a decimal, ties going to the even neighbour; a negative zero stays one,
and a decimal beyond every double gives an infinity without being computed. -/
def toFloat (d : Decimal) : Float :=
  let size :=
    if d.isBeyond then 1.0 / 0.0
    else Float.ofScientific d.mantissa (d.exponent < 0) d.exponent.natAbs
  if d.negative then -size else size

/-- The rational number that a decimal denotes. -/
def toRat (d : Decimal) : Rat :=
  let size : Rat := match d.exponent with
    | .ofNat e => mkRat (d.mantissa * Nat.pow 10 e : Nat) 1
    | .negSucc e => mkRat d.mantissa (Nat.pow 10 (e + 1))
  if d.negative then -size else size

end Decimal

end Baggage

import Baggage.Decimal.Basic

/-!
# Baggage.Decimal.Shortest

The **shortest decimal** that reads back as a given double. A double `m × 2 ^ q` is the nearest
one to every real of its *rounding interval*, which reaches half a unit to either side (a quarter
downwards from a power of two) and contains its ends exactly when `m` is even.

`Interval.shortest` tries the decimal grids from one digit to seventeen. On each grid the only
points worth testing are the two neighbours of the value; the first grid with a neighbour inside
the interval wins, and of two such neighbours the nearer one. All comparisons are between natural
numbers, so nothing is rounded on the way.
-/

namespace Baggage.Decimal

/-- How to choose between two neighbours that are equally near. -/
inductive Tie where
  /-- The neighbour whose last digit is even. -/
  | even
  /-- The larger neighbour. -/
  | up
  deriving DecidableEq, Repr

/-- The rounding interval of a positive double: its value and both ends, each a numerator over
the common denominator `unit`. -/
structure Interval where
  /-- Numerator of the lower end. -/
  low : Nat
  /-- Numerator of the value. -/
  value : Nat
  /-- Numerator of the upper end. -/
  high : Nat
  /-- The common denominator. -/
  unit : Nat
  /-- Whether the ends themselves read back as the value. -/
  closed : Bool

namespace Interval

/-- The interval of `mantissa × 2 ^ exponent`, where a normal number has its mantissa from
`2 ^ 52` on and the least exponent is `-1074`. -/
def ofBinary (mantissa : Nat) (exponent : Int) : Interval :=
  let below := if mantissa == 4503599627370496 && exponent > -1074 then 1 else 2
  let scale := exponent - 2
  let up := Nat.pow 2 scale.toNat
  { low := (4 * mantissa - below) * up
    value := 4 * mantissa * up
    high := (4 * mantissa + 2) * up
    unit := Nat.pow 2 (-scale).toNat
    closed := mantissa % 2 == 0 }

/-- The interval with all its numbers divided by a power of ten. -/
def downscale (i : Interval) (places : Int) : Interval :=
  let grow := Nat.pow 10 (-places).toNat
  { i with
    low := i.low * grow
    value := i.value * grow
    high := i.high * grow
    unit := i.unit * Nat.pow 10 places.toNat }

/-- The exponent of the power of ten that the leading digit of the value counts. -/
def leadingExponent (i : Interval) : Int :=
  if i.unit ≤ i.value then
    (Nat.toDigits 10 (i.value / i.unit)).length - 1
  else
    let places := (Nat.toDigits 10 (i.unit / i.value)).length
    if i.unit ≤ i.value * Nat.pow 10 (places - 1) then 1 - (places : Int) else -places

/-- Whether a whole number of units lies in the interval. -/
def contains (i : Interval) (n : Nat) : Bool :=
  if i.closed then i.low ≤ n * i.unit && n * i.unit ≤ i.high
  else i.low < n * i.unit && n * i.unit < i.high

/-- The whole number inside the interval that is nearest to its value, if there is one. -/
def nearest? (tie : Tie) (i : Interval) : Option Nat :=
  let down := i.value / i.unit
  let rest := i.value % i.unit
  match i.contains down, i.contains (down + 1) with
  | false, false => none
  | true, false => some down
  | false, true => some (down + 1)
  | true, true =>
    match compare (2 * rest) i.unit with
    | .lt => some down
    | .gt => some (down + 1)
    | .eq => match tie with
      | .even => some (if down % 2 == 0 then down else down + 1)
      | .up => some (down + 1)

/-- The first hit on the grids from `places` downwards: the digits and their power of ten. -/
def search (tie : Tie) (i : Interval) : (grids : Nat) → (places : Int) → Nat × Int
  | 0, places => ((i.downscale places).value / (i.downscale places).unit, places)
  | grids + 1, places =>
    match (i.downscale places).nearest? tie with
    | some digits => (digits, places)
    | none => search tie i grids (places - 1)

/-- The digits and the power of ten of the shortest decimal in the interval. -/
def shortest (tie : Tie) (i : Interval) : Nat × Int :=
  match i.search tie 17 i.leadingExponent with
  | (10, places) => (1, places + 1)
  | found => found

end Interval

/-- The shortest decimal that reads back as a finite double, and nothing for the others. -/
def ofFloat? (tie : Tie) (x : Float) : Option Decimal :=
  match x.toModel.unpack with
  | .zero sign => some ⟨sign == .negative, 0, 0⟩
  | .finite sign mantissa exponent _ =>
    let (digits, places) := (Interval.ofBinary mantissa exponent).shortest tie
    some ⟨sign == .negative, digits, places⟩
  | .infinity _ => none
  | .notANumber => none

end Baggage.Decimal

import Baggage.Decimal.Basic

/-!
# Baggage.Arithmetic

The **arithmetic** that weights, prices and tableau entries are computed in. Every algorithm of
the library is written once over `Arithmetic`, a class of operations *without laws*, and runs in
two instances:

* `Float`, IEEE 754 binary64. The order in which an algorithm combines its numbers is then part
  of its meaning, since rounding makes addition non-associative.
* `Rat`, exact arithmetic, in which the algorithms can be compared with their mathematics.

`Exact` is what a number of either arithmetic stands for. Rounding to whole steps (`Exact.floor`,
`Exact.ceil`) is done on that value and so is the same function in both.
-/

namespace Baggage

/-! ### Exact values -/

/-- What a number stands for, exactly. Both zeros stand for the rational `0`. -/
inductive Exact where
  /-- A rational number. -/
  | rational (value : Rat)
  /-- An infinity, with its sign. -/
  | infinite (negative : Bool)
  /-- No value: the result of an undefined operation. -/
  | undefined
  deriving DecidableEq

namespace Exact

/-- The largest count that fits a machine word. Conversions to a count stop there. -/
def largestCount : Nat := 18446744073709551615

/-- The largest whole number not above a value, as a count: negative values and the undefined one
give `0`, values too large for a word give the largest count. -/
def floor : Exact → Nat
  | rational q => min q.floor.toNat largestCount
  | infinite negative => if negative then 0 else largestCount
  | undefined => 0

/-- The least whole number not below a value, as a count, with the same limits as `floor`. -/
def ceil : Exact → Nat
  | rational q => min q.ceil.toNat largestCount
  | infinite negative => if negative then 0 else largestCount
  | undefined => 0

/-- The rational `± mantissa × 2 ^ exponent`. -/
def dyadic (negative : Bool) (mantissa : Nat) (exponent : Int) : Rat :=
  let size : Rat := match exponent with
    | .ofNat e => mkRat (mantissa * Nat.pow 2 e : Nat) 1
    | .negSucc e => mkRat mantissa (Nat.pow 2 (e + 1))
  if negative then -size else size

/-- The value of a double. -/
def ofFloat (x : Float) : Exact :=
  match x.toModel.unpack with
  | .zero _ => rational 0
  | .finite sign mantissa exponent _ => rational (dyadic (sign == .negative) mantissa exponent)
  | .infinity sign => infinite (sign == .negative)
  | .notANumber => undefined

end Exact

/-! ### The operations -/

/-- The operations that the algorithms use. Nothing is assumed of them. -/
class Arithmetic (α : Type) where
  /-- Addition. -/
  add : α → α → α
  /-- Subtraction. -/
  sub : α → α → α
  /-- Multiplication. -/
  mul : α → α → α
  /-- Division. -/
  div : α → α → α
  /-- Negation. -/
  neg : α → α
  /-- Absolute value. -/
  abs : α → α
  /-- Zero. -/
  zero : α
  /-- One. -/
  one : α
  /-- What a sum of no terms is, and what every sum starts from. -/
  emptySum : α
  /-- Strictly below. -/
  lt : α → α → Bool
  /-- Below or equal. -/
  le : α → α → Bool
  /-- Numerically equal. -/
  eq : α → α → Bool
  /-- Neither an infinity nor undefined. -/
  isFinite : α → Bool
  /-- Strictly below every upper bound that is infinite. -/
  isBelowInfinity : α → Bool
  /-- The number nearest to a decimal. -/
  ofDecimal : Decimal → α
  /-- The number that a numeral is written for, if this arithmetic has one. -/
  ofNumeral : Numeral → Option α
  /-- What a number stands for. -/
  exact : α → Exact

namespace Arithmetic

variable {α : Type} [Arithmetic α]

instance (priority := low) instAdd : Add α := ⟨add⟩
instance (priority := low) instSub : Sub α := ⟨sub⟩
instance (priority := low) instMul : Mul α := ⟨mul⟩
instance (priority := low) instDiv : Div α := ⟨div⟩
instance (priority := low) instNeg : Neg α := ⟨neg⟩

/-- The number nearest to a natural number. -/
@[inline] def ofNat (n : Nat) : α := ofDecimal (.scaled n 0)

/-- A number if it is above zero, otherwise zero; zero also for an undefined number. -/
@[inline] def positivePart (x : α) : α := if lt zero x then x else zero

/-- The sum of a list, added up from its first term on. -/
@[specialize] def sum (terms : List α) : α := terms.foldl add emptySum

/-- The sum of the products of two lists, as far as both reach. -/
@[specialize] def dot (xs ys : List α) : α := sum (List.zipWith mul xs ys)

/-- Doubles. A sum of no terms is the negative zero, the one double that leaves every other
unchanged when added to it. -/
instance instFloat : Arithmetic Float where
  add := Float.add
  sub := Float.sub
  mul := Float.mul
  div := Float.div
  neg := Float.neg
  abs := Float.abs
  zero := 0.0
  one := 1.0
  emptySum := -0.0
  lt x y := decide (x < y)
  le x y := decide (x ≤ y)
  eq x y := x == y
  isFinite := Float.isFinite
  isBelowInfinity x := decide (x < 1.0 / 0.0)
  ofDecimal := Decimal.toFloat
  ofNumeral
    | .decimal d => some d.toFloat
    | .infinity negative => some (if negative then -1.0 / 0.0 else 1.0 / 0.0)
    | .undefined => some (0.0 / 0.0)
  exact := Exact.ofFloat

/-- Rational numbers, which are all finite and have no infinity to be below of. -/
instance instRat : Arithmetic Rat where
  add x y := x + y
  sub x y := x - y
  mul x y := x * y
  div x y := x / y
  neg x := -x
  abs x := if x < 0 then -x else x
  zero := 0
  one := 1
  emptySum := 0
  lt x y := decide (x < y)
  le x y := decide (x ≤ y)
  eq x y := decide (x = y)
  isFinite _ := true
  isBelowInfinity _ := true
  ofDecimal := Decimal.toRat
  ofNumeral
    | .decimal d => some d.toRat
    | .infinity _ => none
    | .undefined => none
  exact := .rational

end Arithmetic

end Baggage

import Baggage.Decimal.Fixed

/-!
# Baggage.Fare.Rupees

**Amounts in rupees**, with Indian digit grouping: the last three digits of the whole part form a
group, and the digits before them are grouped in twos, as in `₹12,34,567`.

`rupees` rounds to whole rupees, a half away from zero. `grouped` is the magnitude of an amount
with a limited number of decimals, from which the zeros at the end are dropped.
-/

namespace Baggage.Fare

/-- The digits in groups of two, counted from the end; the first group may have only one. -/
def pairGroups (digits : List Char) : List (List Char) :=
  let whole := if digits.length % 2 = 1 then [digits.take 1] else []
  whole ++ pairs (digits.drop (digits.length % 2))
where
  /-- The digits in groups of two, counted from the start. -/
  pairs : List Char → List (List Char)
    | a :: b :: rest => [a, b] :: pairs rest
    | rest => if rest.isEmpty then [] else [rest]

/-- The groups of a whole number's digits. -/
def digitGroups (digits : List Char) : List (List Char) :=
  if digits.length ≤ 3 then [digits]
  else
    let head := digits.length - 3
    pairGroups (digits.take head) ++ [digits.drop head]

/-- The digits of a whole number with commas between their groups. -/
def groupDigits (digits : List Char) : List Char :=
  List.intercalate [','] (digitGroups digits)

/-- The digits without the zeros at their end. -/
def trimZeros (digits : List Char) : List Char :=
  (digits.reverse.dropWhile fun c => c == '0').reverse

/-- The magnitude of an amount, rounded to at most `places` decimals with a half going to the even
neighbour. -/
def grouped (places : Nat) : Exact → String
  | .rational q =>
    let (whole, fraction) := Decimal.fixedDigits places q
    match trimZeros fraction with
    | [] => String.ofList (groupDigits whole)
    | fraction => String.ofList (groupDigits whole ++ '.' :: fraction)
  | .infinite _ => "inf"
  | .undefined => "NaN"

/-- The whole number nearest to a rational, a half going away from zero. -/
def roundHalfAway (q : Rat) : Int :=
  let size : Int := ((2 * q.num.natAbs + q.den) / (2 * q.den) : Nat)
  if q.num < 0 then -size else size

/-- An amount in whole rupees. -/
def rupees : Exact → String
  | .rational q =>
    let n := roundHalfAway q
    (if n < 0 then "-" else "") ++ "₹" ++ grouped 0 (.rational (mkRat n 1))
  | .infinite negative => (if negative then "-" else "") ++ "₹" ++ grouped 0 (.infinite negative)
  | .undefined => "₹" ++ grouped 0 .undefined

end Baggage.Fare

import Baggage.Arithmetic

/-!
# Baggage.Decimal.Fixed

Numbers with a **fixed count of decimal places**. The exact value is rounded once to the nearest
multiple of the last place, a half going to the even neighbour, and the digits of the result are
split at the point.
-/

namespace Baggage.Decimal

/-- The whole number nearest to `num / den`, a half going to the even neighbour. -/
def roundHalfEven (num den : Nat) : Nat :=
  match compare (2 * (num % den)) den with
  | .lt => num / den
  | .gt => num / den + 1
  | .eq => if num / den % 2 == 0 then num / den else num / den + 1

/-- The digits of a natural number, with zeros in front up to a given width. -/
def padDigits (width n : Nat) : List Char :=
  let ds := Nat.toDigits 10 n
  List.replicate (width - ds.length) '0' ++ ds

/-- The digits before and after the point of `|q|`, rounded to `places` decimals. -/
def fixedDigits (places : Nat) (q : Rat) : List Char × List Char :=
  let scale := Nat.pow 10 places
  let n := roundHalfEven (q.num.natAbs * scale) q.den
  (Nat.toDigits 10 (n / scale), if places == 0 then [] else padDigits places (n % scale))

/-- The text of a double with `places` decimals. A negative number keeps its sign even when all
its digits are zero. -/
def fixed (places : Nat) (x : Float) : String :=
  let sign := if x.toBits >>> 63 == 1 then "-" else ""
  match Exact.ofFloat x with
  | .rational q =>
    match fixedDigits places q with
    | (whole, []) => sign ++ String.ofList whole
    | (whole, fraction) => sign ++ String.ofList (whole ++ '.' :: fraction)
  | .infinite _ => sign ++ "inf"
  | .undefined => "NaN"

end Baggage.Decimal

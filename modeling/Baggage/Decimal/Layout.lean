import Baggage.Decimal.Shortest

/-!
# Baggage.Decimal.Layout

How a decimal is **laid out** as text. A `Layout` is the record of one format's decisions: which
magnitudes are written positionally and which with an exponent, how a whole number ends, whether
a positive exponent carries its sign. The digits themselves are always the shortest ones.
-/

namespace Baggage.Decimal

/-- The decisions of one format for writing a number. -/
structure Layout where
  /-- The least leading exponent that is written positionally, if there is one. -/
  least : Option Int
  /-- The greatest leading exponent that is written positionally, if there is one. -/
  greatest : Option Int
  /-- What is written after the digits of a whole number. -/
  wholeEnd : String
  /-- What stands between `e` and the digits of a positive exponent. -/
  plus : String
  /-- The choice between two shortest decimals that are equally near. -/
  tie : Tie

namespace Layout

/-- Messages: always positional, and a whole number is written as one. -/
def message : Layout := ⟨none, none, "", "", .up⟩

/-- Whether a decimal with this leading exponent is written positionally. -/
def isPositional (l : Layout) (leading : Int) : Bool :=
  (l.least.all fun k => k ≤ leading) && l.greatest.all fun k => leading ≤ k

/-- `count` zeros. -/
def zeros (count : Int) : List Char := List.replicate count.toNat '0'

/-- The positional form of the digits `ds` whose last one counts `10 ^ places`. -/
def positional (l : Layout) (ds : List Char) (places : Int) : String :=
  let whole := ds.length + places
  if 0 ≤ places then String.ofList (ds ++ zeros places) ++ l.wholeEnd
  else if 0 < whole then
    String.ofList (ds.take whole.toNat ++ '.' :: ds.drop whole.toNat)
  else String.ofList ('0' :: '.' :: zeros (-whole) ++ ds)

/-- The form with an exponent of the same digits. -/
def scientific (l : Layout) (ds : List Char) (places : Int) : String :=
  let leading := ds.length - 1 + places
  let mantissa := match ds with
    | first :: second :: rest => String.ofList (first :: '.' :: second :: rest)
    | _ => String.ofList ds
  let sign := if leading < 0 then "-" else l.plus
  mantissa ++ "e" ++ sign ++ toString leading.natAbs

/-- The text of a decimal. Zero is written positionally. -/
def writeDecimal (l : Layout) (d : Decimal) : String :=
  let ds := Nat.toDigits 10 d.mantissa
  let sign := if d.negative then "-" else ""
  if d.mantissa == 0 || l.isPositional (ds.length - 1 + d.exponent) then
    sign ++ l.positional ds d.exponent
  else sign ++ l.scientific ds d.exponent

/-- The text of a double. -/
def write (l : Layout) (x : Float) : String :=
  match ofFloat? l.tie x with
  | some d => l.writeDecimal d
  | none => if x.isNaN then "NaN" else if x < 0.0 then "-inf" else "inf"

end Layout

end Baggage.Decimal

import Baggage.Decimal.Basic

/-!
# Baggage.Decimal.Numeral

**Reading numerals** as they are typed: a sign or none, then digits with or without a point, of
which at least one must be there, and an exponent or none; or one of the words `inf`, `infinity`
and `nan`, in any case.
-/

namespace Baggage.Numeral

/-- The value of a text that is all digits, of which there is at least one. -/
def digitsValue? (text : List Char) : Option Nat :=
  if text.isEmpty || !text.all Char.isDigit then none else some (Decimal.digitsValue text)

/-- The natural number that a text consists of; a plus sign may stand in front of its digits. -/
def natural? : List Char → Option Nat
  | '+' :: digits => digitsValue? digits
  | digits => digitsValue? digits

/-- Whether a minus sign stands in front of a text, and the text without its sign. -/
def splitSign : List Char → Bool × List Char
  | '-' :: rest => (true, rest)
  | '+' :: rest => (false, rest)
  | text => (false, text)

/-- The exponent that a text consists of; no text at all is the exponent zero. -/
def exponent? : List Char → Option Int
  | [] => some 0
  | c :: rest =>
    if c == 'e' || c == 'E' then
      let (negative, digits) := splitSign rest
      (digitsValue? digits).map fun (size : Nat) => if negative then -(size : Int) else size
    else none

/-- The digits after a point, if there is one, and what follows them. -/
def splitFraction : List Char → List Char × List Char
  | '.' :: rest => (rest.takeWhile Char.isDigit, rest.dropWhile Char.isDigit)
  | text => ([], text)

/-- The decimal that a text without a sign consists of. -/
def decimal? (negative : Bool) (text : List Char) : Option Decimal :=
  let whole := text.takeWhile Char.isDigit
  let (fraction, rest) := splitFraction (text.dropWhile Char.isDigit)
  if whole.isEmpty && fraction.isEmpty then none
  else (exponent? rest).map (Decimal.ofDigits negative whole fraction)

/-- The numeral that a text consists of. -/
def read? (text : String) : Option Numeral :=
  let (negative, text) := splitSign text.toList
  match String.ofList (text.map Char.toLower) with
  | "inf" => some (.infinity negative)
  | "infinity" => some (.infinity negative)
  | "nan" => some .undefined
  | _ => (decimal? negative text).map .decimal

end Baggage.Numeral

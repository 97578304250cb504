/-!
# Baggage.Decimal.Digits

The **natural number that decimal digits denote**, for digit strings of any length. Taking the
digits one after the other multiplies an ever longer number by ten, so that a string of a million
digits would take a million such products; halving the string first leaves few products of long
numbers. `digitsValue_eq` says that the way makes no difference to the number.
-/

namespace Baggage.Decimal

/-- The number that some digits denote, from the numbers of their two halves, which are found in
the same way `depth` levels deep and digit by digit below. -/
def valueByHalves : (depth : Nat) → (digits : List Char) → Nat
  | 0, digits => Nat.ofDigitChars 10 digits 0
  | depth + 1, digits =>
    let front := digits.take (digits.length / 2)
    let back := digits.drop (digits.length / 2)
    Nat.pow 10 back.length * valueByHalves depth front + valueByHalves depth back

/-- The number that some digits denote. The string is halved until fewer than sixteen digits are
left. -/
def digitsValue (digits : List Char) : Nat := valueByHalves (digits.length / 8).log2 digits

/-- Two strings of digits in a row denote the first number, moved by the length of the second
string, plus the second number. -/
theorem ofDigitChars_append_zero (front back : List Char) :
    Nat.ofDigitChars 10 (front ++ back) 0 =
      Nat.pow 10 back.length * Nat.ofDigitChars 10 front 0 + Nat.ofDigitChars 10 back 0 := by
  rw [Nat.ofDigitChars_append, Nat.ofDigitChars_eq_ofDigitChars_zero]
  rfl

theorem valueByHalves_eq (depth : Nat) (digits : List Char) :
    valueByHalves depth digits = Nat.ofDigitChars 10 digits 0 := by
  induction depth generalizing digits with
  | zero => rfl
  | succ depth ih =>
    rw [valueByHalves, ih, ih, ← ofDigitChars_append_zero, List.take_append_drop]

theorem digitsValue_eq (digits : List Char) :
    digitsValue digits = Nat.ofDigitChars 10 digits 0 :=
  valueByHalves_eq _ digits

end Baggage.Decimal

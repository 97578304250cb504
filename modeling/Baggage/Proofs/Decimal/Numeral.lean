import Mathlib
import Baggage.Decimal.Numeral

/-!
# Baggage.Proofs.Decimal.Numeral

**What numerals are read as.** The reader of natural numbers accepts a plus sign or none and then at
least one digit (`natural?_eq_some_iff`). Digits with or without a point are read as the decimal
that they denote (`read?_digits`), whose value is their number divided by a power of ten
(`toRat_ofDigits`).
-/

namespace Baggage

namespace Numeral

/-- Whether a text is written for a natural number: a plus sign or none, and then at least one
digit. There may be any number of zeros in front. -/
def IsNatural (text : List Char) (n : ℕ) : Prop :=
  ∃ sign digits, text = sign ++ digits ∧ (sign = [] ∨ sign = ['+']) ∧ digits ≠ [] ∧
    (∀ c ∈ digits, c.isDigit = true) ∧ Nat.ofDigitChars 10 digits 0 = n

theorem digitsValue?_eq_some_iff {text : List Char} {n : ℕ} :
    digitsValue? text = some n ↔ text ≠ [] ∧ (∀ c ∈ text, c.isDigit = true) ∧
      Nat.ofDigitChars 10 text 0 = n := by
  simp [digitsValue?, Decimal.digitsValue_eq, and_assoc]

theorem natural?_eq_some_iff {text : List Char} {n : ℕ} :
    natural? text = some n ↔ IsNatural text n := by
  constructor
  · intro h
    unfold natural? at h
    split at h
    · next digits =>
        exact ⟨['+'], digits, rfl, .inr rfl, digitsValue?_eq_some_iff.mp h⟩
    · exact ⟨[], text, rfl, .inl rfl, digitsValue?_eq_some_iff.mp h⟩
  · rintro ⟨sign, digits, rfl, rfl | rfl, hdigits⟩
    · have hvalue := digitsValue?_eq_some_iff.mpr hdigits
      obtain ⟨hne, hdigit, -⟩ := hdigits
      -- the first digit is no plus sign, so the text is read as digits alone
      cases digits with
      | nil => exact absurd rfl hne
      | cons c rest =>
          have hplus : c ≠ '+' := by
            rintro rfl
            exact absurd (hdigit '+' List.mem_cons_self) (by decide)
          rw [List.nil_append, natural?]
          · exact hvalue
          · rintro more ⟨rfl, -⟩
            exact hplus rfl
    · exact digitsValue?_eq_some_iff.mpr hdigits

/-! ### Digits around a point -/

/-- The part of a numeral behind its whole digits: no point is written without digits after it. -/
def pointed (fraction : List Char) : List Char :=
  if fraction = [] then [] else '.' :: fraction

section Read

variable {whole fraction : List Char}

theorem splitFraction_pointed (hfraction : ∀ c ∈ fraction, c.isDigit = true) :
    splitFraction (pointed fraction) = (fraction, []) := by
  unfold pointed
  split
  · next h => rw [h]; rfl
  · rw [splitFraction, List.takeWhile_eq_self_iff.mpr hfraction,
      List.dropWhile_eq_nil_iff.mpr hfraction]

theorem span_pointed (hwhole : ∀ c ∈ whole, c.isDigit = true) :
    (whole ++ pointed fraction).takeWhile Char.isDigit = whole ∧
      (whole ++ pointed fraction).dropWhile Char.isDigit = pointed fraction := by
  rw [List.takeWhile_append_of_pos hwhole, List.dropWhile_append_of_pos hwhole]
  unfold pointed
  split
  · simp
  · rw [List.takeWhile_cons_of_neg (by decide), List.dropWhile_cons_of_neg (by decide)]
    simp

theorem decimal?_digits (negative : Bool) (hne : whole ≠ [])
    (hwhole : ∀ c ∈ whole, c.isDigit = true) (hfraction : ∀ c ∈ fraction, c.isDigit = true) :
    decimal? negative (whole ++ pointed fraction)
      = some (Decimal.ofDigits negative whole fraction 0) := by
  obtain ⟨htake, hdrop⟩ := @span_pointed whole fraction hwhole
  unfold decimal?
  rw [htake, hdrop, splitFraction_pointed hfraction]
  simp [hne, exponent?]

theorem toNat_of_isDigit {c : Char} (h : c.isDigit = true) : 48 ≤ c.toNat ∧ c.toNat ≤ 57 := by
  simp only [Char.isDigit, Bool.and_eq_true, decide_eq_true_eq] at h
  exact h

theorem toLower_of_isDigit {c : Char} (h : c.isDigit = true) : c.toLower = c := by
  refine dif_neg fun hupper => ?_
  have hbelow := (toNat_of_isDigit h).2
  have habove : 65 ≤ c.toNat := hupper.1
  omega

/-- What begins with a digit is no word. -/
theorem ofList_toLower_ne {c : Char} (hc : c.isDigit = true) (rest : List Char) {word : String}
    {d : Char} {more : List Char} (hword : word.toList = d :: more) (hd : d.isDigit = false) :
    String.ofList ((c :: rest).map Char.toLower) ≠ word := by
  rintro rfl
  rw [String.toList_ofList, List.map_cons, toLower_of_isDigit hc] at hword
  obtain ⟨rfl, -⟩ := List.cons_eq_cons.mp hword
  exact Bool.eq_false_iff.mp hd hc

/-- **Digits are read as the decimal that they denote.** -/
theorem read?_digits (hne : whole ≠ []) (hwhole : ∀ c ∈ whole, c.isDigit = true)
    (hfraction : ∀ c ∈ fraction, c.isDigit = true) :
    read? (String.ofList (whole ++ pointed fraction))
      = some (.decimal (Decimal.ofDigits false whole fraction 0)) := by
  have hdecimal := decimal?_digits false hne hwhole hfraction
  cases whole with
  | nil => exact absurd rfl hne
  | cons c rest =>
      -- a digit in front is neither a sign nor the first letter of a word
      have hc : c.isDigit = true := hwhole c List.mem_cons_self
      have hsign : splitSign (c :: (rest ++ pointed fraction))
          = (false, c :: (rest ++ pointed fraction)) := by
        unfold splitSign
        split
        · next h =>
            obtain ⟨rfl, -⟩ := List.cons_eq_cons.mp h
            cases hc
        · next h =>
            obtain ⟨rfl, -⟩ := List.cons_eq_cons.mp h
            cases hc
        · rfl
      unfold read?
      rw [String.toList_ofList, List.cons_append, hsign]
      dsimp only
      split
      · next h => exact absurd h (ofList_toLower_ne hc _ rfl rfl)
      · next h => exact absurd h (ofList_toLower_ne hc _ rfl rfl)
      · next h => exact absurd h (ofList_toLower_ne hc _ rfl rfl)
      · rw [← List.cons_append, hdecimal]
        rfl

end Read

end Numeral

namespace Decimal

theorem toRat_ofDigits (whole fraction : List Char) :
    (ofDigits false whole fraction 0).toRat
      = (Nat.ofDigitChars 10 (whole ++ fraction) 0 : ℚ) / 10 ^ fraction.length := by
  unfold ofDigits toRat
  rw [digitsValue_eq]
  cases fraction.length with
  | zero => simp [Rat.mkRat_one]
  | succ k =>
      have hexponent : (0 : ℤ) - (k + 1 : ℕ) = .negSucc k := by omega
      rw [hexponent]
      simp only [Bool.false_eq_true, if_false]
      rw [Rat.mkRat_eq_div]
      rw [Nat.pow_eq]
      push_cast
      rfl

end Decimal

end Baggage

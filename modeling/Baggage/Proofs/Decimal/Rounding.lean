import Mathlib
import Baggage.Decimal.Fixed

/-!
# Baggage.Proofs.Decimal.Rounding

**What rounding gives.** A rational number rounds to a whole number that no other one is nearer than
(`RoundsTo`); what tells two roundings apart is only which of two equally near numbers is preferred.
Two numbers are equally near exactly if the rational lies in the middle between them, which is all
that `roundsTo_of_half` leaves to be shown of a tie.

The digits of a number with a fixed count of decimal places are those of the magnitude, rounded once
with a preference for even numbers (`ofDigitChars_fixedDigits`).
-/

namespace Baggage.Decimal

/-! ### Nearest whole numbers -/

/-- Whether a rational number rounds to a whole number: none is nearer, and it is preferred to every
other one that is equally near. -/
structure RoundsTo (Prefers : ℤ → ℤ → Prop) (x : ℚ) (n : ℤ) : Prop where
  /-- No whole number is nearer. -/
  nearest : ∀ m : ℤ, |x - n| ≤ |x - m|
  /-- It is preferred to the others that are as near. -/
  tie : ∀ m : ℤ, m ≠ n → |x - m| = |x - n| → Prefers n m

/-- The preference for an even number. -/
def PrefersEven (n _m : ℤ) : Prop := Even n

/-- The preference for the number that is further away from zero. -/
def PrefersOuter (n m : ℤ) : Prop := |m| < |n|

variable {Prefers : ℤ → ℤ → Prop} {x : ℚ} {n : ℤ}

theorem one_le_abs_sub {m n : ℤ} (h : m ≠ n) : (1 : ℚ) ≤ |(m : ℚ) - n| := by
  have hint : 1 ≤ |m - n| := Int.one_le_abs (sub_ne_zero.mpr h)
  exact_mod_cast hint

/-- A whole number that is at most a half away is nearest, and another one is as near only if the
rational number lies in the middle. -/
theorem roundsTo_of_half (hhalf : |x - n| ≤ 1 / 2)
    (htie : ∀ m : ℤ, m ≠ n → (m : ℚ) + n = 2 * x → Prefers n m) : RoundsTo Prefers x n where
  nearest m := by
    rcases eq_or_ne m n with rfl | hm
    · exact le_rfl
    · have hapart := one_le_abs_sub hm
      have htriangle : |(m : ℚ) - n| ≤ |x - n| + |x - m| := by
        rw [abs_sub_comm x m, add_comm]
        exact abs_sub_le _ _ _
      linarith
  tie m hm hequal := by
    refine htie m hm ?_
    rcases abs_eq_abs.mp hequal with hsame | hopposite
    · have hcast : (m : ℚ) = n := by linarith
      exact absurd (Int.cast_injective hcast) hm
    · linarith

/-- A whole number that is less than a half away is nearest, whatever is preferred. -/
theorem roundsTo_of_lt_half (hhalf : |x - n| < 1 / 2) : RoundsTo Prefers x n := by
  refine roundsTo_of_half hhalf.le fun m hm htwice => ?_
  have hapart := one_le_abs_sub hm
  have hdouble : (m : ℚ) - n = 2 * (x - n) := by linarith
  rw [hdouble, abs_mul, abs_two] at hapart
  linarith

theorem RoundsTo.neg (h : RoundsTo PrefersOuter x n) : RoundsTo PrefersOuter (-x) (-n) := by
  have mirror (k : ℤ) : |-x - (-k : ℤ)| = |x - k| := by
    rw [Int.cast_neg, ← neg_sub', abs_neg]
  constructor
  · intro m
    rw [mirror n, ← neg_neg m, mirror (-m)]
    exact h.nearest (-m)
  · intro m hm hequal
    rw [mirror n, ← neg_neg m, mirror (-m)] at hequal
    have hcloser := h.tie (-m) (fun heq => hm (by rw [← heq, neg_neg])) hequal
    rwa [PrefersOuter, abs_neg] at hcloser ⊢

/-- A whole number rounds to itself alone. -/
theorem RoundsTo.eq_of_intCast {k : ℤ} (h : RoundsTo Prefers (k : ℚ) n) : n = k := by
  have hnearest := h.nearest k
  rw [sub_self, abs_zero] at hnearest
  have hzero : (k : ℚ) - n = 0 := abs_nonpos_iff.mp hnearest
  exact_mod_cast (sub_eq_zero.mp hzero).symm

/-! ### Half to even -/

section Quotient

variable (num : ℕ) {den : ℕ}

/-- A quotient lies above its whole part by the remainder. -/
theorem div_eq_add_remainder (hden : 0 < den) :
    (num : ℚ) / den = (num / den : ℕ) + (num % den : ℕ) / (den : ℚ) := by
  have hnum : (num : ℚ) = den * (num / den : ℕ) + (num % den : ℕ) := by
    exact_mod_cast (Nat.div_add_mod num den).symm
  field_simp
  linarith

/-- **The rounding of a quotient** is nearest, and even where two whole numbers are equally near. -/
theorem roundHalfEven_roundsTo (hden : 0 < den) :
    RoundsTo PrefersEven ((num : ℚ) / den) (roundHalfEven num den) := by
  have hpos : (0 : ℚ) < den := Nat.cast_pos.mpr hden
  have hleast : 0 ≤ ((num % den : ℕ) : ℚ) / den := by positivity
  have hless : ((num % den : ℕ) : ℚ) / den < 1 := by
    rw [div_lt_one hpos]
    exact_mod_cast Nat.mod_lt num hden
  have hnext : (((num / den + 1 : ℕ) : ℤ) : ℚ) = (num / den : ℕ) + 1 := by
    rw [Int.cast_natCast, Nat.cast_add_one]
  -- the remainder lies below the middle, above it, or in it
  rw [div_eq_add_remainder num hden]
  unfold roundHalfEven
  cases hside : compare (2 * (num % den)) den with
  | lt =>
      have hhalf : ((num % den : ℕ) : ℚ) / den < 1 / 2 := by
        rw [div_lt_div_iff₀ hpos two_pos, mul_comm, one_mul]
        exact_mod_cast Nat.compare_eq_lt.mp hside
      refine roundsTo_of_lt_half ?_
      rwa [Int.cast_natCast, add_sub_cancel_left, abs_of_nonneg hleast]
  | gt =>
      have hhalf : 1 / 2 < ((num % den : ℕ) : ℚ) / den := by
        rw [div_lt_div_iff₀ two_pos hpos, one_mul, mul_comm]
        exact_mod_cast Nat.compare_eq_gt.mp hside
      refine roundsTo_of_lt_half ?_
      rw [hnext, add_sub_add_left_eq_sub, abs_lt]
      constructor <;> linarith
  | eq =>
      have hhalf : ((num % den : ℕ) : ℚ) / den = 1 / 2 := by
        rw [div_eq_div_iff hpos.ne' two_ne_zero, one_mul, mul_comm]
        exact_mod_cast Nat.compare_eq_eq.mp hside
      rw [hhalf]
      dsimp only
      split
      · next heven =>
          refine roundsTo_of_half ?_ fun _ _ _ => ?_
          · rw [Int.cast_natCast, add_sub_cancel_left]
            norm_num
          · exact (Int.even_coe_nat _).mpr (Nat.even_iff.mpr (beq_iff_eq.mp heven))
      · next hodd =>
          refine roundsTo_of_half ?_ fun _ _ _ => ?_
          · rw [hnext, add_sub_add_left_eq_sub]
            norm_num
          · refine (Int.even_coe_nat _).mpr (Nat.even_add_one.mpr fun heven => hodd ?_)
            exact beq_iff_eq.mpr (Nat.even_iff.mp heven)

end Quotient

/-! ### Fixed decimal places -/

section FixedDigits

variable (places : ℕ) (q : ℚ)

theorem length_padDigits {width n : ℕ} (hwidth : 0 < width) (h : n < 10 ^ width) :
    (padDigits width n).length = width := by
  have hle : (Nat.toDigits 10 n).length ≤ width :=
    (Nat.length_toDigits_le_iff (by decide) hwidth).mpr h
  rw [padDigits, List.length_append, List.length_replicate, Nat.sub_add_cancel hle]

theorem isDigit_of_mem_padDigits {width n : ℕ} {c : Char} (hc : c ∈ padDigits width n) :
    c.isDigit = true := by
  rcases List.mem_append.mp hc with hc | hc
  · rw [List.eq_of_mem_replicate hc]
    rfl
  · exact Nat.isDigit_of_mem_toDigits (by decide) (by decide) hc

theorem ofDigitChars_padDigits (width n : ℕ) : Nat.ofDigitChars 10 (padDigits width n) 0 = n := by
  rw [padDigits, Nat.ofDigitChars_append, Nat.ofDigitChars_replicate_zero, Nat.mul_zero,
    Nat.ofDigitChars_toDigits (by decide) (by decide)]

theorem fixedDigits_fst_ne_nil : (fixedDigits places q).1 ≠ [] := Nat.toDigits_ne_nil

theorem isDigit_fixedDigits : (∀ c ∈ (fixedDigits places q).1, c.isDigit = true) ∧
    ∀ c ∈ (fixedDigits places q).2, c.isDigit = true := by
  refine ⟨fun c hc => Nat.isDigit_of_mem_toDigits (by decide) (by decide) hc, ?_⟩
  unfold fixedDigits
  dsimp only
  split
  · exact fun c hc => absurd hc List.not_mem_nil
  · exact fun c hc => isDigit_of_mem_padDigits hc

theorem length_fixedDigits : (fixedDigits places q).2.length = places := by
  unfold fixedDigits
  dsimp only
  split
  · next h => rw [beq_iff_eq.mp h, List.length_nil]
  · next h =>
      have hplaces : 0 < places := Nat.pos_of_ne_zero fun hzero => h (beq_iff_eq.mpr hzero)
      exact length_padDigits hplaces (Nat.mod_lt _ (Nat.pow_pos (by decide)))

/-- The digits before and after the point are those of the magnitude, counted in the last place and
rounded to a whole number. -/
theorem ofDigitChars_fixedDigits :
    Nat.ofDigitChars 10 ((fixedDigits places q).1 ++ (fixedDigits places q).2) 0
      = roundHalfEven (q.num.natAbs * Nat.pow 10 places) q.den := by
  have hfront : Nat.ofDigitChars 10 (fixedDigits places q).1 0
      = roundHalfEven (q.num.natAbs * Nat.pow 10 places) q.den / Nat.pow 10 places :=
    Nat.ofDigitChars_toDigits (by decide) (by decide)
  have hback : Nat.ofDigitChars 10 (fixedDigits places q).2 0
      = roundHalfEven (q.num.natAbs * Nat.pow 10 places) q.den % Nat.pow 10 places := by
    unfold fixedDigits
    dsimp only
    split
    · next h =>
        rw [beq_iff_eq.mp h]
        exact (Nat.mod_one _).symm
    · exact ofDigitChars_padDigits _ _
  rw [ofDigitChars_append_zero, length_fixedDigits, hfront, hback, Nat.div_add_mod]

theorem abs_eq_natAbs_div (q : ℚ) : |q| = (q.num.natAbs : ℚ) / q.den := by
  rw [Rat.abs_def, Rat.divInt_eq_div, Int.cast_natCast, Int.cast_natCast]

/-- **The digits with a fixed count of places denote the magnitude, rounded half to even.** -/
theorem fixedDigits_roundsTo : RoundsTo PrefersEven (|q| * 10 ^ places)
    (Nat.ofDigitChars 10 ((fixedDigits places q).1 ++ (fixedDigits places q).2) 0 : ℕ) := by
  have hmagnitude : |q| * 10 ^ places
      = ((q.num.natAbs * Nat.pow 10 places : ℕ) : ℚ) / q.den := by
    rw [Nat.cast_mul, Nat.pow_eq, Nat.cast_pow, mul_div_right_comm, ← abs_eq_natAbs_div,
      Nat.cast_ofNat]
  rw [ofDigitChars_fixedDigits, hmagnitude]
  exact roundHalfEven_roundsTo _ q.den_pos

end FixedDigits

end Baggage.Decimal

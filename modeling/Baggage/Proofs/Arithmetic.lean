import Mathlib
import Baggage.Arithmetic

/-!
# Baggage.Proofs.Arithmetic

**Exact arithmetic.** The class `Arithmetic` has no laws, so little can be proved of an algorithm
before its arithmetic is chosen. At the rational numbers the operations of the class are those of
an ordered field, and this module says so, operation by operation. `rat_dot_ofFn` then turns the sum
of products that all algorithms share into a sum over the positions of the second list.

Of floating-point numbers only the order around zero is needed (`float_le_zero`).
-/

namespace Baggage.Arithmetic

/-! ### The operations at the rational numbers -/

@[simp] theorem rat_zero : (zero : ℚ) = 0 := rfl

@[simp] theorem rat_one : (one : ℚ) = 1 := rfl

@[simp] theorem rat_lt (x y : ℚ) : lt x y = decide (x < y) := rfl

@[simp] theorem rat_le (x y : ℚ) : le x y = decide (x ≤ y) := rfl

@[simp] theorem rat_eq (x y : ℚ) : eq x y = decide (x = y) := rfl

@[simp] theorem rat_isFinite (x : ℚ) : isFinite x = true := rfl

@[simp] theorem rat_isBelowInfinity (x : ℚ) : isBelowInfinity x = true := rfl

@[simp] theorem rat_abs (x : ℚ) : abs x = |x| := by
  show (if x < 0 then -x else x) = |x|
  split
  · next h => rw [abs_of_neg h]
  · next h => rw [abs_of_nonneg (not_lt.mp h)]

theorem rat_ofNat (n : ℕ) : (ofNat n : ℚ) = n := by
  show (Decimal.scaled n 0).toRat = n
  simp [Decimal.toRat, Decimal.scaled, Rat.mkRat_one]

/-- A decimal without a sign stands for a number that is not negative. -/
theorem rat_ofDecimal_nonneg {d : Decimal} (h : d.negative = false) :
    0 ≤ (ofDecimal d : ℚ) := by
  show 0 ≤ d.toRat
  unfold Decimal.toRat
  simp only [h, Bool.false_eq_true, if_false]
  split
  · exact Rat.mkRat_nonneg (Int.natCast_nonneg _) _
  · exact Rat.mkRat_nonneg (Int.natCast_nonneg _) _

/-! ### Sums -/

/-- A sum of rational numbers does not depend on the order of its additions. -/
theorem rat_sum (terms : List ℚ) : sum terms = terms.sum := by
  show terms.foldl (· + ·) 0 = terms.sum
  rw [List.sum_eq_foldl]

/-- The sum of the products of two lists, over the positions of the second one; a coefficient
beyond the end of the first counts as zero. -/
theorem rat_dot_ofFn {n : Nat} (coefficients : List ℚ) (f : Fin n → ℚ) :
    dot coefficients (List.ofFn f) = ∑ j : Fin n, coefficients.getD j 0 * f j := by
  rw [dot, rat_sum]
  show (List.zipWith (· * ·) coefficients (List.ofFn f)).sum = _
  -- on the length of the second list; the first one may be shorter or longer
  induction n generalizing coefficients with
  | zero => simp
  | succ n ih =>
      cases coefficients with
      | nil => simp
      | cons c rest =>
          rw [List.ofFn_succ, List.zipWith_cons_cons, List.sum_cons, ih, Fin.sum_univ_succ]
          simp

/-! ### The order of floating-point numbers -/

open Float.Model (UnpackedFloat)

theorem unpacked_le_zero {u : UnpackedFloat} (h : u.isFinite = true) :
    u.le (.zero .positive) = !(UnpackedFloat.zero .positive).lt u := by
  cases u with
  | notANumber => cases h
  | infinity sign => cases h
  | zero sign => rfl
  | finite sign mantissa exponent pos => cases sign <;> rfl

theorem float_zero_lt (x : Float) :
    lt 0.0 x = (UnpackedFloat.zero .positive).lt x.toModel.unpack :=
  Bool.decide_eq_true.trans Bool.decide_eq_true

/-- A finite number is at most zero exactly if it is not above zero. Only an undefined one is
neither. -/
theorem float_le_zero {x : Float} (h : x.isFinite = true) :
    le x zero = !lt 0.0 x := by
  have hzero : (0.0 : Float).toModel.unpack = .zero .positive := rfl
  have hle : le x zero = x.toModel.unpack.le (0.0 : Float).toModel.unpack :=
    Bool.decide_eq_true.trans Bool.decide_eq_true
  rw [hle, hzero, float_zero_lt]
  exact unpacked_le_zero h

end Baggage.Arithmetic

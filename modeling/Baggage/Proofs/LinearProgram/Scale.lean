import Baggage.Proofs.LinearProgram.Start

/-!
# Baggage.Proofs.LinearProgram.Scale

**How small the numbers of a tableau can become.** The entries of a tableau are those of the one
that the method began with, solved for other columns, so by Cramer's rule each is a quotient of two
determinants of the first tableau: `det_mul_entry`, `det_mul_bound`. If no such quotient other than
zero is as small as a margin, no entry ever is, whatever pivots were made (`IsScaled.lt_abs_entry`),
and likewise for the right-hand sides.

That is so for problems in whole numbers whose determinants are not too large
(`hasScaledEntries_of_whole`, `hasScaledBounds_of_whole`), since a whole number other than zero is
not less than one.
-/

namespace Baggage.LinearProgram

namespace Tableau

variable {s : Shape}

/-! ### Columns -/

/-- A column of a tableau. -/
def column (t : Tableau ℚ s) (j : Fin s.columns) : Fin s.rows → ℚ := fun i => t.entry i j

/-- The matrix of some columns of a tableau, one for each row. -/
def columnMatrix (t : Tableau ℚ s) (f : Fin s.rows → Fin s.columns) :
    Matrix (Fin s.rows) (Fin s.rows) ℚ := Matrix.of fun i k => t.entry i (f k)

/-- Combinations of equations in solved form show their factors in the basic columns. -/
theorem IsSolved.eq_sum_of_mem {t : Tableau ℚ s} (h : t.IsSolved) {e : Equation ℚ s.columns}
    (hmem : e.excess ∈ t.rowSpace) :
    (∀ j, e.coefficient j = ∑ k, e.coefficient (t.basicColumn k) * t.entry k j) ∧
      e.bound = ∑ k, e.coefficient (t.basicColumn k) * t.bound k := by
  obtain ⟨y, hy⟩ := (Submodule.mem_span_range_iff_exists_fun ℚ).mp hmem
  have hvalue : ∀ z, e.excess z = ∑ k, y k * (t.equation k).excess z := by
    intro z
    rw [← hy, Finset.sum_apply]
    rfl
  have hcoefficient : ∀ j, e.coefficient j = ∑ k, y k * t.entry k j := by
    intro j
    simp only [Equation.coefficient_eq_excess_sub, hvalue, entry_eq_coefficient, mul_sub,
      Finset.sum_sub_distrib]
  -- a basic column occurs in its own equation only, so its coefficient is the factor there
  have hfactor : ∀ k, e.coefficient (t.basicColumn k) = y k := by
    intro k
    rw [hcoefficient]
    simp [h _ k]
  simp only [hfactor]
  refine ⟨hcoefficient, ?_⟩
  simp only [Equation.bound_eq_neg_excess, hvalue, bound_eq_bound, mul_neg,
    Finset.sum_neg_distrib]

/-! ### Cramer's rule -/

section Cramer

variable {t t₀ : Tableau ℚ s}

theorem IsFormOf.mem_rowSpace (h : t.IsFormOf t₀) (i : Fin s.rows) :
    (t₀.equation i).excess ∈ t.rowSpace := by
  rw [h.rowSpace_eq]
  exact t₀.excess_mem_rowSpace i

/-- The columns of the first tableau are combinations of those that are basic now, with the entries
of the present tableau as factors. -/
theorem IsFormOf.column_eq_sum (h : t.IsFormOf t₀) (j : Fin s.columns) :
    t₀.column j = fun i => ∑ k, t.entry k j • t₀.columnMatrix t.basicColumn i k := by
  funext i
  simp only [smul_eq_mul, mul_comm (t.entry _ j)]
  exact (h.solved.eq_sum_of_mem (h.mem_rowSpace i)).1 j

theorem IsFormOf.bound_eq_sum (h : t.IsFormOf t₀) :
    t₀.bound = fun i => ∑ k, t.bound k • t₀.columnMatrix t.basicColumn i k := by
  funext i
  simp only [smul_eq_mul, mul_comm (t.bound _)]
  exact (h.solved.eq_sum_of_mem (h.mem_rowSpace i)).2

/-- The columns of the first tableau that are basic in one of its forms are independent, because
the unit columns it began with are combinations of them. -/
theorem IsFormOf.det_columnMatrix_ne_zero (h : t.IsFormOf t₀) (h₀ : t₀.IsSolved) :
    (t₀.columnMatrix t.basicColumn).det ≠ 0 := by
  -- solving the unit columns for the basic ones is the inverse
  refine Matrix.det_ne_zero_of_right_inverse (B := t.columnMatrix t₀.basicColumn) ?_
  ext i k
  have hunit := (h.solved.eq_sum_of_mem (h.mem_rowSpace i)).1 (t₀.basicColumn k)
  rw [← entry_eq_coefficient, h₀ i k] at hunit
  rw [Matrix.one_apply, hunit]
  rfl

/-- **Cramer's rule**: replacing a basic column by another one multiplies the determinant by the
entry of the other one in that row. -/
theorem IsFormOf.det_mul_entry (h : t.IsFormOf t₀) (k : Fin s.rows) (j : Fin s.columns) :
    ((t₀.columnMatrix t.basicColumn).updateCol k (t₀.column j)).det
      = t.entry k j * (t₀.columnMatrix t.basicColumn).det := by
  rw [h.column_eq_sum j, Matrix.det_updateCol_sum, smul_eq_mul]

theorem IsFormOf.det_mul_bound (h : t.IsFormOf t₀) (k : Fin s.rows) :
    ((t₀.columnMatrix t.basicColumn).updateCol k t₀.bound).det
      = t.bound k * (t₀.columnMatrix t.basicColumn).det := by
  rw [h.bound_eq_sum, Matrix.det_updateCol_sum, smul_eq_mul]

end Cramer

/-! ### Scale -/

/-- Replacing one of several independent columns of a tableau by another vector either makes them
dependent or keeps their determinant from shrinking to a margin. -/
def IsScaled (t : Tableau ℚ s) (margin : ℚ) (v : Fin s.rows → ℚ) : Prop :=
  ∀ (f : Fin s.rows → Fin s.columns) (k : Fin s.rows), (t.columnMatrix f).det ≠ 0 →
    ((t.columnMatrix f).updateCol k v).det ≠ 0 →
      margin * |(t.columnMatrix f).det| < |((t.columnMatrix f).updateCol k v).det|

section IsScaled

variable {t t₀ : Tableau ℚ s} {margin : ℚ}

/-- The number by which the determinant changes exceeds the margin. -/
theorem IsScaled.lt_abs {v : Fin s.rows → ℚ} (hscaled : t₀.IsScaled margin v)
    (h : t.IsFormOf t₀) (h₀ : t₀.IsSolved) {k : Fin s.rows} {a : ℚ}
    (ha : ((t₀.columnMatrix t.basicColumn).updateCol k v).det
      = a * (t₀.columnMatrix t.basicColumn).det) (hne : a ≠ 0) : margin < |a| := by
  have hdet : (t₀.columnMatrix t.basicColumn).det ≠ 0 := h.det_columnMatrix_ne_zero h₀
  have hlt := hscaled t.basicColumn k hdet (ha ▸ mul_ne_zero hne hdet)
  rw [ha, abs_mul] at hlt
  exact lt_of_mul_lt_mul_right hlt (abs_nonneg _)

theorem IsScaled.lt_abs_entry {j : Fin s.columns} (hscaled : t₀.IsScaled margin (t₀.column j))
    (h : t.IsFormOf t₀) (h₀ : t₀.IsSolved) {k : Fin s.rows} (hne : t.entry k j ≠ 0) :
    margin < |t.entry k j| := hscaled.lt_abs h h₀ (h.det_mul_entry k j) hne

theorem IsScaled.lt_abs_bound (hscaled : t₀.IsScaled margin t₀.bound) (h : t.IsFormOf t₀)
    (h₀ : t₀.IsSolved) {k : Fin s.rows} (hne : t.bound k ≠ 0) : margin < |t.bound k| :=
  hscaled.lt_abs h h₀ (h.det_mul_bound k) hne

end IsScaled

/-! ### Whole numbers -/

/-- A determinant of whole numbers that is not zero is not less than one. -/
theorem one_le_abs_det {n : Nat} {b : Matrix (Fin n) (Fin n) ℚ} (h : ∀ i k, (b i k).den = 1)
    (hne : b.det ≠ 0) : 1 ≤ |b.det| := by
  have hwhole : b = (Matrix.of fun i k => (b i k).num).map (Int.cast : ℤ → ℚ) := by
    ext i k
    exact ((Rat.den_eq_one_iff _).mp (h i k)).symm
  have hdet : b.det = ((Matrix.of fun i k => (b i k).num).det : ℤ) := by
    conv_lhs => rw [hwhole]
    exact (Int.cast_det _).symm
  rw [hdet] at hne ⊢
  exact_mod_cast Int.one_le_abs (Int.cast_ne_zero.mp hne)

theorem isScaled_of_whole {t : Tableau ℚ s} {margin : ℚ} {v : Fin s.rows → ℚ}
    (hentry : ∀ i j, (t.entry i j).den = 1) (hv : ∀ i, (v i).den = 1)
    (hdet : ∀ f, margin * |(t.columnMatrix f).det| < 1) : t.IsScaled margin v := by
  intro f k _ hne
  refine lt_of_lt_of_le (hdet f) (one_le_abs_det (fun i j => ?_) hne)
  rw [Matrix.updateCol_apply]
  split
  · exact hv i
  · exact hentry i (f j)

end Tableau

/-! ### Problems -/

theorem Row.den_turn_mul (row : Row ℚ) (a : ℚ) : (row.turn * a).den = a.den := by
  rcases lt_or_ge row.bound 0 with h | h
  · rw [turn_of_neg h, neg_one_mul, Rat.neg_den]
  · rw [turn_of_nonneg h, one_mul]

theorem Row.den_slackCoefficient (row : Row ℚ) : row.slackCoefficient.den = 1 := by
  unfold slackCoefficient
  split
  · rfl
  · rfl
  · rfl

namespace Problem

/-- Replacing one of several independent starting columns by another one never shrinks their
determinant to a margin, so no entry that the method can ever meet is that small without being
zero. -/
def HasScaledEntries (p : Problem ℚ) (margin : ℚ) : Prop :=
  ∀ j, p.start.IsScaled margin (p.start.column j)

/-- The same for the right-hand sides in the place of a column. -/
def HasScaledBounds (p : Problem ℚ) (margin : ℚ) : Prop := p.start.IsScaled margin p.start.bound

/-- All coefficients are whole numbers. -/
def HasWholeCoefficients (p : Problem ℚ) : Prop :=
  ∀ row ∈ p.rows, ∀ a ∈ row.coefficients, a.den = 1

instance (p : Problem ℚ) : Decidable p.HasWholeCoefficients :=
  inferInstanceAs (Decidable (∀ row ∈ p.rows, ∀ a ∈ row.coefficients, a.den = 1))

variable {p : Problem ℚ} {margin : ℚ}

theorem HasWholeCoefficients.den_entry (h : p.HasWholeCoefficients) (i : Fin p.shape.rows)
    (j : Fin p.shape.columns) : (p.start.entry i j).den = 1 := by
  rw [Tableau.entry_eq_coefficient, equation_start, coefficient_startEquation]
  split
  · rw [Row.den_turn_mul, List.getD_eq_getElem?_getD]
    cases hget : (p.row i).coefficients[j.val]? with
    | none => rfl
    | some a => exact h _ (List.get_mem _ i) a (List.mem_of_getElem? hget)
  · -- slacks and artificial columns have coefficients one, zero or minus one
    split
    · exact Row.den_slackCoefficient _
    · split
      · rfl
      · rfl

/-- **Problems in whole numbers have scaled entries**, if no determinant of theirs is as large as
the inverse of the margin. -/
theorem hasScaledEntries_of_whole (h : p.HasWholeCoefficients)
    (hdet : ∀ f, margin * |(p.start.columnMatrix f).det| < 1) : p.HasScaledEntries margin :=
  fun j => Tableau.isScaled_of_whole h.den_entry (fun i => h.den_entry i j) hdet

theorem hasScaledBounds_of_whole (h : p.HasWholeCoefficients)
    (hbound : ∀ row ∈ p.rows, row.bound.den = 1)
    (hdet : ∀ f, margin * |(p.start.columnMatrix f).det| < 1) : p.HasScaledBounds margin := by
  refine Tableau.isScaled_of_whole h.den_entry (fun i => ?_) hdet
  rw [Tableau.bound_eq_bound, equation_start, bound_startEquation, Row.den_turn_mul]
  exact hbound _ (List.get_mem _ i)

end Problem

end Baggage.LinearProgram

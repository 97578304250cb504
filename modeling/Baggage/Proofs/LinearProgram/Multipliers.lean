import Baggage.LinearProgram.Solution
import Baggage.Proofs.LinearProgram.Phase

/-!
# Baggage.Proofs.LinearProgram.Multipliers

**The multipliers behind the costs.** The costs of a tableau are those of its objective less a
combination of the equations it began with (`Tableau.Prices.exists_multipliers`), in the second
phase the problem's own costs (`IsPhase.exists_multipliers`). The multiplier of a row can be read
off the columns that only its equation began with: the cost of its slack or artificial column is the
multiplier, up to sign. `shadowPrice_eq` says that the reported shadow price takes it from there
with all signs of the problem restored, whatever the relation of the row, whichever way it was
turned, and whether the objective is maximised.
-/

namespace Baggage.LinearProgram

/-- A combination of equations is subtracted coefficient by coefficient. -/
theorem Equation.parts_of_excess_eq {n m : Nat} {e objective : Equation ℚ n}
    {rows : Fin m → Equation ℚ n} {y : Fin m → ℚ}
    (h : e.excess = objective.excess - ∑ i, y i • (rows i).excess) :
    (∀ j, e.coefficient j = objective.coefficient j - ∑ i, y i * (rows i).coefficient j) ∧
      e.bound = objective.bound - ∑ i, y i * (rows i).bound := by
  have hvalue : ∀ z, e.excess z = objective.excess z - ∑ i, y i * (rows i).excess z := by
    intro z
    rw [h, Pi.sub_apply, Finset.sum_apply]
    rfl
  constructor
  · intro j
    simp only [coefficient_eq_excess_sub, hvalue, mul_sub, Finset.sum_sub_distrib]
    ring
  · simp only [bound_eq_neg_excess, hvalue, mul_neg, Finset.sum_neg_distrib]
    ring

/-- **Costs that stand for an objective are that objective less a combination of equations**, also
of the equations that the tableau began with. -/
theorem Tableau.Prices.exists_multipliers {s : Shape} {t t₀ : Tableau ℚ s}
    {objective : Equation ℚ s.columns} (h : t.Prices objective) (hform : t.IsFormOf t₀) :
    ∃ y : Fin s.rows → ℚ, (∀ j, t.cost j = objective.coefficient j - ∑ i, y i * t₀.entry i j) ∧
      t.costs.bound = objective.bound - ∑ i, y i * t₀.bound i := by
  have hmem : objective.excess - t.costs.excess ∈ t₀.rowSpace := by
    rw [← hform.rowSpace_eq, ← neg_sub]
    exact Submodule.neg_mem _ h.sub_mem_rowSpace
  obtain ⟨y, hy⟩ := (Submodule.mem_span_range_iff_exists_fun ℚ).mp hmem
  have hexcess : t.costs.excess = objective.excess - ∑ i, y i • (t₀.equation i).excess := by
    rw [hy, sub_sub_cancel]
  exact ⟨y, Equation.parts_of_excess_eq hexcess⟩

namespace Problem

variable {p : Problem ℚ} {t : Tableau ℚ p.shape}

/-! ### The dual columns -/

theorem dual_of_atMost {k : Fin p.shape.rows} (h : (p.row k).turnedRelation = .atMost) :
    p.dual k = (p.shape.slackColumn k, (p.row k).turn) := by
  unfold row at h
  unfold dual
  simp only [h]
  rfl

theorem dual_of_atLeast {k : Fin p.shape.rows} (h : (p.row k).turnedRelation = .atLeast) :
    p.dual k = (p.shape.slackColumn k, -(p.row k).turn) := by
  unfold row at h
  unfold dual
  simp only [h]
  rfl

theorem dual_of_equal {k : Fin p.shape.rows} (h : (p.row k).turnedRelation = .equal) :
    p.dual k = (p.startColumn k, (p.row k).turn) := by
  unfold row at h
  unfold dual
  simp only [h]
  rfl

/-- The shadow price is the final cost of the dual column, with the signs of the row and of the
objective restored. -/
theorem shadowPrice_rowReport (costs : Equation ℚ p.shape.columns) (x : List ℚ)
    (k : Fin p.shape.rows) : (p.rowReport costs x k).shadowPrice
      = -(p.sign * (costs.coefficient (p.dual k).1 * (p.dual k).2)) := by
  have hprice : (p.rowReport costs x k).shadowPrice
      = (if p.maximize then 1 else -1) * costs.coefficient (p.dual k).1 * (p.dual k).2 + 0 := rfl
  rw [hprice, sign]
  split
  · ring
  · ring

/-! ### Multipliers -/

/-- Numbers for the rows such that the costs of a tableau are the problem's own costs less that
many times each starting equation. -/
structure IsMultiplied (p : Problem ℚ) (t : Tableau ℚ p.shape) (y : Fin p.shape.rows → ℚ) :
    Prop where
  /-- The cost of each column. -/
  cost_eq : ∀ j, t.cost j
    = p.startCosts.coefficient j - ∑ i, y i * (p.startEquation i).coefficient j
  /-- The right-hand side of the costs. -/
  bound_eq : t.costs.bound = -∑ i, y i * ((p.row i).turn * (p.row i).bound)

/-- **Every tableau of the second phase has multipliers**, since its costs differ from the
problem's own by a combination of the starting equations. -/
theorem IsPhase.exists_multipliers (h : p.IsPhase p.startCosts t) : ∃ y, p.IsMultiplied t y := by
  obtain ⟨y, hcost, hbound⟩ := h.prices.exists_multipliers h.isFormOf
  simp only [Tableau.entry_eq_coefficient, Tableau.bound_eq_bound, equation_start] at hcost hbound
  refine ⟨y, hcost, ?_⟩
  rw [hbound, bound_startCosts, zero_sub]
  rfl

namespace IsMultiplied

variable {y : Fin p.shape.rows → ℚ}

/-! ### The costs of the columns, kind by kind -/

theorem cost_variableColumn (h : p.IsMultiplied t y) (j : Fin p.shape.variableCount) :
    t.cost (p.shape.variableColumn j) = p.sign * p.objective.getD j 0
      - ∑ i, y i * ((p.row i).turn * (p.row i).coefficients.getD j 0) := by
  rw [h.cost_eq, coefficient_startCosts_variable]
  simp only [coefficient_startEquation_variable]

theorem cost_slackColumn (h : p.IsMultiplied t y) (k : Fin p.shape.rows) :
    t.cost (p.shape.slackColumn k) = -(y k * (p.row k).slackCoefficient) := by
  rw [h.cost_eq, p.coefficient_startCosts_of_le (Nat.le_add_right _ _), zero_sub]
  simp [coefficient_startEquation_slack]

theorem cost_startColumn (h : p.IsMultiplied t y) {k : Fin p.shape.rows}
    (hk : (p.row k).needsArtificial = true) : t.cost (p.startColumn k) = -y k := by
  obtain ⟨a, -, ha⟩ := p.startColumn_of_needs hk
  -- no other row starts from this column, so only the equation of `k` contains it
  have hcoef : ∀ i, (p.startEquation i).coefficient (p.startColumn k) = if k = i then 1 else 0 := by
    intro i
    rw [ha, coefficient_startEquation_artificial, ← ha]
    simp only [p.startColumn_injective.eq_iff]
  rw [h.cost_eq, p.coefficient_startCosts_of_le (p.variableCount_le_startColumn k), zero_sub]
  simp [hcoef]

/-! ### Shadow prices -/

/-- The final cost from which a shadow price is read, with the factor for the row applied. -/
theorem cost_dual (h : p.IsMultiplied t y) (k : Fin p.shape.rows) :
    t.cost (p.dual k).1 * (p.dual k).2 = -(y k * (p.row k).turn) := by
  cases hrel : (p.row k).turnedRelation with
  | atMost =>
      have hslack : (p.row k).slackCoefficient = 1 :=
        Row.slackCoefficient_of_not_needs (by simp [Row.needsArtificial, hrel])
      rw [dual_of_atMost hrel, h.cost_slackColumn, hslack]
      ring
  | atLeast =>
      have hslack : (p.row k).slackCoefficient = -1 := by
        rw [Row.slackCoefficient, hrel]
        rfl
      rw [dual_of_atLeast hrel, h.cost_slackColumn, hslack]
      ring
  | equal =>
      have hneeds : (p.row k).needsArtificial = true := by simp [Row.needsArtificial, hrel]
      rw [dual_of_equal hrel, h.cost_startColumn hneeds]
      ring

/-- **The shadow price of a row is its multiplier**, with the signs of the row and of the objective
restored. -/
theorem shadowPrice_eq (h : p.IsMultiplied t y) (x : List ℚ) (k : Fin p.shape.rows) :
    (p.rowReport t.costs x k).shadowPrice = p.sign * (y k * (p.row k).turn) := by
  have hcost : t.costs.coefficient (p.dual k).1 * (p.dual k).2 = -(y k * (p.row k).turn) :=
    h.cost_dual k
  rw [shadowPrice_rowReport, hcost, mul_neg, neg_neg]

/-- On an upper bound the shadow price is the cost of the slack, counted as the objective is. -/
theorem shadowPrice_atMost (h : p.IsMultiplied t y) (x : List ℚ) {k : Fin p.shape.rows}
    (hrel : (p.row k).relation = .atMost) :
    (p.rowReport t.costs x k).shadowPrice = -(p.sign * t.cost (p.shape.slackColumn k)) := by
  rw [h.shadowPrice_eq, h.cost_slackColumn, Row.slackCoefficient_eq, hrel]
  ring

/-- On a lower bound it has the opposite sign. -/
theorem shadowPrice_atLeast (h : p.IsMultiplied t y) (x : List ℚ) {k : Fin p.shape.rows}
    (hrel : (p.row k).relation = .atLeast) :
    (p.rowReport t.costs x k).shadowPrice = p.sign * t.cost (p.shape.slackColumn k) := by
  rw [h.shadowPrice_eq, h.cost_slackColumn, Row.slackCoefficient_eq, hrel]
  ring

/-- On a row that is no equation there is no shadow price without a cost of the slack. -/
theorem shadowPrice_eq_zero (h : p.IsMultiplied t y) (x : List ℚ) {k : Fin p.shape.rows}
    (hrel : (p.row k).relation ≠ .equal) (hcost : t.cost (p.shape.slackColumn k) = 0) :
    (p.rowReport t.costs x k).shadowPrice = 0 := by
  cases hcase : (p.row k).relation with
  | atMost => rw [h.shadowPrice_atMost x hcase, hcost, mul_zero, neg_zero]
  | atLeast => rw [h.shadowPrice_atLeast x hcase, hcost, mul_zero]
  | equal => exact absurd hcase hrel

/-! ### Rows priced by their shadow prices -/

/-- The bounds of the rows, at their shadow prices, make up the objective. -/
theorem sum_shadowPrice_mul_bound (h : p.IsMultiplied t y) (x : List ℚ) :
    ∑ i, (p.rowReport t.costs x i).shadowPrice * (p.row i).bound = -(p.sign * t.costs.bound) := by
  rw [h.bound_eq, mul_neg, neg_neg, Finset.mul_sum]
  refine Finset.sum_congr rfl fun i _ => ?_
  rw [h.shadowPrice_eq]
  ring

/-- The coefficients of a variable, at their shadow prices, make up its coefficient in the
objective but for the cost that is left. -/
theorem sum_shadowPrice_mul_coefficient (h : p.IsMultiplied t y) (x : List ℚ)
    (j : Fin p.shape.variableCount) :
    ∑ i, (p.rowReport t.costs x i).shadowPrice * (p.row i).coefficients.getD j 0
      = p.objective.getD j 0 - p.sign * t.cost (p.shape.variableColumn j) := by
  have hsum : ∑ i, (p.rowReport t.costs x i).shadowPrice * (p.row i).coefficients.getD j 0
      = p.sign * ∑ i, y i * ((p.row i).turn * (p.row i).coefficients.getD j 0) := by
    rw [Finset.mul_sum]
    refine Finset.sum_congr rfl fun i _ => ?_
    rw [h.shadowPrice_eq]
    ring
  rw [hsum, h.cost_variableColumn, mul_sub, ← mul_assoc, sign_mul_sign]
  ring

end IsMultiplied

end Problem

end Baggage.LinearProgram

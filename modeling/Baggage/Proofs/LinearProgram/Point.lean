import Baggage.Proofs.LinearProgram.Start

/-!
# Baggage.Proofs.LinearProgram.Point

**The points of a problem and those of its tableaus.** A tableau has a column for each variable,
for each slack and for each artificial addition; `Problem.point` keeps the variables only and
`Problem.lift` extends a point of the problem by its slacks. Between them, feasible points of the
problem correspond to the `Shape.IsAdmissible` points that solve the starting tableau
(`IsFeasible.solves_lift`, `isFeasible_point`), and the costs stand for the objective
(`excess_startCosts`).
-/

namespace Baggage.LinearProgram

/-- A point without negative values at which the artificial columns are zero. -/
structure Shape.IsAdmissible (s : Shape) (z : Fin s.columns → ℚ) : Prop where
  /-- No value is negative. -/
  nonneg : ∀ j, 0 ≤ z j
  /-- The artificial columns are zero. -/
  artificial_eq_zero : ∀ j : Fin s.columns, s.proper ≤ j.val → z j = 0

namespace Problem

variable (p : Problem ℚ)

/-! ### Forgetting the slacks -/

/-- The values of the variables at a point of the tableau. -/
def point (z : Fin p.shape.columns → ℚ) : List ℚ :=
  List.ofFn fun j => z (p.shape.variableColumn j)

theorem getD_point (z : Fin p.shape.columns → ℚ) (j : Fin p.shape.variableCount) :
    (p.point z).getD j 0 = z (p.shape.variableColumn j) := by
  have hj : j.val < (p.point z).length := by
    rw [point, List.length_ofFn]
    exact j.isLt
  rw [List.getD_eq_getElem _ _ hj]
  simp only [point, List.getElem_ofFn]

/-- The artificial columns of a starting equation add up to the one that it starts from. -/
theorem sum_artificial_startEquation (i : Fin p.shape.rows) (z : Fin p.shape.columns → ℚ) :
    ∑ k, (p.startEquation i).coefficient (p.shape.artificialColumn k)
        * z (p.shape.artificialColumn k)
      = if (p.row i).needsArtificial then z (p.startColumn i) else 0 := by
  simp only [coefficient_startEquation_artificial, ite_mul, one_mul, zero_mul]
  by_cases hi : (p.row i).needsArtificial = true
  · obtain ⟨a, -, ha⟩ := p.startColumn_of_needs hi
    rw [if_pos hi, ha]
    simp [p.shape.artificialColumn_injective.eq_iff]
  · rw [if_neg hi]
    refine Finset.sum_eq_zero fun k _ => if_neg fun hk => hi ?_
    rw [← p.proper_le_startColumn_iff, ← hk, Shape.val_artificialColumn]
    exact Nat.le_add_right _ _

/-- A starting equation is the turned row as an equation, with its artificial column added. -/
theorem excess_startEquation (i : Fin p.shape.rows) (z : Fin p.shape.columns → ℚ) :
    (p.startEquation i).excess z
      = (p.row i).excess (p.point z) (z (p.shape.slackColumn i))
        + if (p.row i).needsArtificial then z (p.startColumn i) else 0 := by
  have hvariable : ∑ j, (p.startEquation i).coefficient (p.shape.variableColumn j)
      * z (p.shape.variableColumn j) = (p.row i).turn * (p.row i).activity (p.point z) := by
    rw [Row.activity, point, Arithmetic.rat_dot_ofFn, Finset.mul_sum]
    refine Finset.sum_congr rfl fun j _ => ?_
    rw [coefficient_startEquation_variable, mul_assoc]
  have hslack : ∑ k, (p.startEquation i).coefficient (p.shape.slackColumn k)
      * z (p.shape.slackColumn k) = (p.row i).slackCoefficient * z (p.shape.slackColumn i) := by
    simp [coefficient_startEquation_slack]
  rw [Equation.excess, Shape.sum_columns, hvariable, hslack, sum_artificial_startEquation,
    bound_startEquation, Row.excess]
  ring

/-- The starting costs are the objective, counted so that less is better. -/
theorem excess_startCosts (z : Fin p.shape.columns → ℚ) :
    p.startCosts.excess z = p.sign * p.evaluate (p.point z) := by
  have hslack : ∀ i, p.startCosts.coefficient (p.shape.slackColumn i) = 0 :=
    fun i => p.coefficient_startCosts_of_le (Nat.le_add_right _ _)
  have hartificial : ∀ k, p.startCosts.coefficient (p.shape.artificialColumn k) = 0 :=
    fun k => p.coefficient_startCosts_of_le
      (le_trans (Nat.le_add_right _ _) (Nat.le_add_right _ _))
  rw [Equation.excess, Shape.sum_columns, bound_startCosts, evaluate, point,
    Arithmetic.rat_dot_ofFn, Finset.mul_sum]
  simp only [coefficient_startCosts_variable, hslack, hartificial, zero_mul,
    Finset.sum_const_zero, add_zero, sub_zero, mul_assoc]

/-- The costs of the first phase are the sum of the artificial columns. -/
theorem excess_artificialCosts (z : Fin p.shape.columns → ℚ) :
    p.artificialCosts.excess z
      = ∑ j : Fin p.shape.columns, if j.val < p.shape.proper then 0 else z j := by
  rw [Equation.excess, bound_artificialCosts, sub_zero]
  refine Finset.sum_congr rfl fun j _ => ?_
  rw [coefficient_artificialCosts]
  split
  · exact zero_mul _
  · exact one_mul _

/-- Without negative values the artificial columns have no negative sum. -/
theorem excess_artificialCosts_nonneg {z : Fin p.shape.columns → ℚ} (hz : ∀ j, 0 ≤ z j) :
    0 ≤ p.artificialCosts.excess z := by
  rw [excess_artificialCosts]
  refine Finset.sum_nonneg fun j _ => ?_
  split
  · exact le_rfl
  · exact hz j

/-- If their sum is not positive either, all artificial columns are zero. -/
theorem eq_zero_of_excess_artificialCosts {z : Fin p.shape.columns → ℚ} (hz : ∀ j, 0 ≤ z j)
    (hsum : p.artificialCosts.excess z ≤ 0) {j : Fin p.shape.columns}
    (hj : p.shape.proper ≤ j.val) : z j = 0 := by
  have hzero := le_antisymm hsum (p.excess_artificialCosts_nonneg hz)
  rw [excess_artificialCosts, Finset.sum_eq_zero_iff_of_nonneg] at hzero
  · have hterm := hzero j (Finset.mem_univ j)
    rwa [if_neg (not_lt.mpr hj)] at hterm
  · intro k _
    split
    · exact le_rfl
    · exact hz k

/-- At admissible points the artificial columns have no sum. -/
theorem excess_artificialCosts_of_isAdmissible {z : Fin p.shape.columns → ℚ}
    (hz : p.shape.IsAdmissible z) : p.artificialCosts.excess z = 0 := by
  rw [excess_artificialCosts]
  refine Finset.sum_eq_zero fun j _ => ?_
  split
  · rfl
  · next h => exact hz.artificial_eq_zero j (not_lt.mp h)

/-- Without its artificial column a starting equation is the turned row. -/
theorem excess_startEquation_of_isAdmissible (i : Fin p.shape.rows)
    {z : Fin p.shape.columns → ℚ} (hz : p.shape.IsAdmissible z) :
    (p.startEquation i).excess z
      = (p.row i).excess (p.point z) (z (p.shape.slackColumn i)) := by
  rw [excess_startEquation]
  split
  · next hi =>
      rw [hz.artificial_eq_zero _ ((p.proper_le_startColumn_iff i).mpr hi), add_zero]
  · exact add_zero _

/-- **An admissible point that solves the starting tableau is feasible** for the problem. -/
theorem isFeasible_point {z : Fin p.shape.columns → ℚ} (hsolves : p.start.Solves z)
    (hz : p.shape.IsAdmissible z) : p.IsFeasible (p.point z) := by
  constructor
  · exact List.length_ofFn
  · intro v hv
    obtain ⟨j, rfl⟩ := (List.mem_ofFn' _ _).mp hv
    exact hz.nonneg _
  · intro row hrow
    obtain ⟨i, rfl⟩ := List.mem_iff_get.mp hrow
    have hexcess := hsolves i
    rw [equation_start, p.excess_startEquation_of_isAdmissible i hz] at hexcess
    exact Row.isMet_of_excess_eq_zero hexcess (hz.nonneg _)

/-! ### Adding the slacks -/

/-- The point of the tableau with the values of a point of the problem, the slacks of the rows
there, and no artificial columns. -/
def lift (x : List ℚ) : Fin p.shape.columns → ℚ :=
  fun j => (x ++ p.rows.map fun row => row.slack x).getD j 0

variable {p}

theorem point_lift {x : List ℚ} (hx : x.length = p.variableCount) : p.point (p.lift x) = x := by
  unfold point lift
  refine List.ext_getElem (by rw [List.length_ofFn, hx]) fun j _ hj => ?_
  rw [List.getElem_ofFn, Shape.val_variableColumn, List.getD_append _ _ _ _ hj,
    List.getD_eq_getElem _ _ hj]

theorem lift_slackColumn {x : List ℚ} (hx : x.length = p.variableCount) (i : Fin p.shape.rows) :
    p.lift x (p.shape.slackColumn i) = (p.row i).slack x := by
  have hindex : (p.shape.slackColumn i).val = x.length + i.val := by
    rw [hx]
    rfl
  unfold lift
  rw [hindex, List.getD_append_right _ _ _ _ (Nat.le_add_right _ _), Nat.add_sub_cancel_left]
  simp [row]

theorem IsFeasible.isAdmissible_lift {x : List ℚ} (h : p.IsFeasible x) :
    p.shape.IsAdmissible (p.lift x) := by
  constructor
  · intro j
    unfold lift
    rw [List.getD_eq_getElem?_getD]
    cases hget : (x ++ p.rows.map fun row => row.slack x)[j.val]? with
    | none => exact le_rfl
    | some v =>
        rcases List.mem_append.mp (List.mem_of_getElem? hget) with hv | hv
        · exact h.nonneg v hv
        · obtain ⟨row, hrow, rfl⟩ := List.mem_map.mp hv
          exact (h.isMet row hrow).slack_nonneg
  · intro j hj
    refine List.getD_eq_default _ _ ?_
    rw [List.length_append, List.length_map, h.length_eq]
    exact hj

/-- **A feasible point of the problem solves the starting tableau** with its slacks. -/
theorem IsFeasible.solves_lift {x : List ℚ} (h : p.IsFeasible x) : p.start.Solves (p.lift x) := by
  intro i
  rw [equation_start, p.excess_startEquation_of_isAdmissible i h.isAdmissible_lift,
    point_lift h.length_eq, lift_slackColumn h.length_eq]
  exact (h.isMet _ (List.get_mem _ _)).excess_slack

end Problem

end Baggage.LinearProgram

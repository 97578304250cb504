import Baggage.Proofs.LinearProgram.Optimality

/-!
# Baggage.Proofs.LinearProgram.Gap

**What a tolerance above zero leaves of a solution.** The reported objective stands in the costs
and was carried along by every pivot, while the values are read off the unit columns at the end.
Below a tolerance of one they belong together (`solve_objective_eq`), also where the values are not
feasible.

The walk ends as soon as no cost is below the negated tolerance, so a cost of that size may be left
in every column. Each unit of a variable or of a slack can then still gain the tolerance, and no
more: that is how far the objective of a feasible point is at best from the reported one
(`solve_objective_gap`), for every tolerance.
-/

namespace Baggage.LinearProgram

/-- The slack of a row that is met is the distance to its bound. -/
theorem Row.IsMet.slack_eq_abs {row : Row ℚ} {x : List ℚ} (h : row.IsMet x) :
    row.slack x = |row.bound - row.activity x| := by
  unfold Row.IsMet at h
  unfold Row.slack
  cases hrel : row.relation <;> simp only [hrel] at h ⊢
  · rw [abs_of_nonneg (sub_nonneg.mpr h)]
  · rw [abs_sub_comm, abs_of_nonneg (sub_nonneg.mpr h)]
  · rw [h, sub_self, abs_zero]

namespace Problem

/-- The values of a point and its distances to the bounds of the rows, added up. -/
def spread (p : Problem ℚ) (x : List ℚ) : ℚ :=
  x.sum + (p.rows.map fun row => |row.bound - row.activity x|).sum

variable {p : Problem ℚ}

/-- The columns of a feasible point add up to its spread. -/
theorem IsFeasible.sum_lift {x : List ℚ} (h : p.IsFeasible x) : ∑ j, p.lift x j = p.spread x := by
  have hvariable : ∑ j, p.lift x (p.shape.variableColumn j) = x.sum := by
    rw [← List.sum_ofFn]
    exact congrArg List.sum (point_lift h.length_eq)
  have hslack : ∀ i, p.lift x (p.shape.slackColumn i)
      = |(p.row i).bound - (p.row i).activity x| := by
    intro i
    have hmet : (p.row i).IsMet x := h.isMet _ (List.get_mem _ _)
    rw [lift_slackColumn h.length_eq, hmet.slack_eq_abs]
  have hartificial : ∑ k, p.lift x (p.shape.artificialColumn k) = 0 :=
    Finset.sum_eq_zero fun k _ => h.isAdmissible_lift.artificial_eq_zero _ (Nat.le_add_right _ _)
  rw [Shape.sum_columns, hvariable, hartificial, add_zero, spread]
  simp only [hslack]
  rw [p.sum_row fun row => |row.bound - row.activity x|]

/-- The same equation twice, and a variable that gains less than a half. -/
def hesitant : Problem ℚ where
  objective := [3, 1 / 4]
  maximize := true
  rows := [⟨"most", [1, 1], .atMost, 4⟩, ⟨"once", [1, 0], .equal, 1⟩, ⟨"again", [1, 0], .equal, 1⟩]

end Problem

namespace Solver

variable {solver : Solver ℚ} {p : Problem ℚ} {solution : Solution ℚ}

theorem solve_hesitant : (solve ⟨none, 1 / 2, true⟩ Problem.hesitant).result = .ok
    { values := [1, 0]
      objective := 3
      iterations := 1
      rows := [⟨"most", 1, 3, 0, false⟩, ⟨"once", 1, 0, 3, true⟩, ⟨"again", 1, 0, 0, true⟩] } := by
  decide +kernel

/-- **The reported objective is that of the reported values**, in either mode, for every tolerance
below one, and whether or not the values are feasible. -/
theorem solve_objective_eq (hnonneg : 0 ≤ solver.tolerance) (hlt : solver.tolerance < 1)
    (h : (solver.solve p).result = .ok solution) :
    solution.objective = p.evaluate solution.values := by
  obtain ⟨t, iterations, hpriced, -, rfl⟩ := solve_ok_isPriced hnonneg h
  have hvalues : (p.solution solver.tolerance t iterations).values = p.point t.vertex :=
    Problem.values_eq_point hpriced.isFormOf.solved hnonneg hlt
  calc (p.solution solver.tolerance t iterations).objective
      = p.sign * -t.costs.bound := by rw [Problem.objective_solution, neg_mul, mul_neg]
    _ = p.sign * (p.sign * p.evaluate (p.point t.vertex)) := by
        rw [hpriced.sign_mul_evaluate_vertex]
    _ = p.evaluate (p.point t.vertex) := by rw [← mul_assoc, p.sign_mul_sign, one_mul]
    _ = p.evaluate (p.solution solver.tolerance t iterations).values := by rw [hvalues]

theorem solve_hesitant_objective_eq : ∃ solution,
    (solve ⟨none, 1 / 2, true⟩ Problem.hesitant).result = .ok solution ∧
      (∃ i, Problem.hesitant.shape.proper ≤ ((secondWalk ⟨none, 1 / 2, true⟩ Problem.hesitant
        (prepared ⟨none, 1 / 2, true⟩ Problem.hesitant) 1).tableau.basicColumn i).val) ∧
      solution.values = [1, 0] ∧
      solution.objective = Problem.hesitant.evaluate solution.values := by
  have hbasic : ∃ i, Problem.hesitant.shape.proper ≤ ((secondWalk ⟨none, 1 / 2, true⟩
      Problem.hesitant (prepared ⟨none, 1 / 2, true⟩ Problem.hesitant) 1).tableau.basicColumn
        i).val := by
    decide +kernel
  have hnonneg : (0 : ℚ) ≤ 1 / 2 := by norm_num
  have hlt : (1 / 2 : ℚ) < 1 := by norm_num
  exact ⟨_, solve_hesitant, hbasic, rfl, solve_objective_eq hnonneg hlt solve_hesitant⟩

/-- Counted so that less is better, no feasible point is better than the reported objective by more
than the tolerance on its spread. -/
theorem solve_sub_le_sign_mul_evaluate (hnonneg : 0 ≤ solver.tolerance)
    (h : (solver.solve p).result = .ok solution) {x : List ℚ} (hx : p.IsFeasible x) :
    p.sign * solution.objective - solver.tolerance * p.spread x ≤ p.sign * p.evaluate x := by
  obtain ⟨t, iterations, hpriced, hcost, rfl⟩ := solve_ok_isPriced hnonneg h
  have hobjective : p.sign * (p.solution solver.tolerance t iterations).objective
      = -t.costs.bound := by
    rw [Problem.objective_solution, ← mul_assoc, mul_neg, p.sign_mul_sign, neg_one_mul]
  rw [hobjective, ← hx.sum_lift]
  exact hpriced.le_sign_mul_evaluate hcost hx

/-- **No feasible point is better than the reported objective** by more than the tolerance on each
unit of its values and slacks. -/
theorem solve_objective_gap (hnonneg : 0 ≤ solver.tolerance)
    (h : (solver.solve p).result = .ok solution) {x : List ℚ} (hx : p.IsFeasible x) :
    if p.maximize then p.evaluate x ≤ solution.objective + solver.tolerance * p.spread x
    else solution.objective - solver.tolerance * p.spread x ≤ p.evaluate x := by
  have hle := solve_sub_le_sign_mul_evaluate hnonneg h hx
  rw [Problem.sign] at hle
  split
  · next hmax =>
      rw [if_pos hmax] at hle
      linarith
  · next hmax =>
      rw [if_neg hmax] at hle
      linarith

theorem solve_hesitant_objective_gap : ∃ solution,
    (solve ⟨none, 1 / 2, true⟩ Problem.hesitant).result = .ok solution ∧
      solution.objective < Problem.hesitant.evaluate [1, 3] ∧
      Problem.hesitant.evaluate [1, 3]
        ≤ solution.objective + 1 / 2 * Problem.hesitant.spread [1, 3] := by
  have hnonneg : (0 : ℚ) ≤ 1 / 2 := by norm_num
  have hfeas : Problem.hesitant.IsFeasible [1, 3] := by decide +kernel
  exact ⟨_, solve_hesitant, by decide +kernel, solve_objective_gap hnonneg solve_hesitant hfeas⟩

end Solver

end Baggage.LinearProgram

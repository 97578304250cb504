import Baggage.Proofs.LinearProgram.Priced
import Baggage.Proofs.LinearProgram.TwoPhase

/-!
# Baggage.Proofs.LinearProgram.Optimality

**A solution is an optimal point**, with a tolerance of zero. The values are those of the vertex of
a final tableau. The vertex is feasible because the artificial columns are zero there, and optimal
because a final tableau has no negative cost: every feasible point of the problem solves the same
tableau, at the same costs.
-/

namespace Baggage.LinearProgram

namespace Problem

variable {p : Problem ℚ} {t : Tableau ℚ p.shape}

/-- The values read off a tableau are those of the variables at its vertex. -/
theorem values_eq_point (hsolved : t.IsSolved) {tolerance : ℚ} (hnonneg : 0 ≤ tolerance)
    (hlt : tolerance < 1) : t.values tolerance = p.point t.vertex := by
  rw [Tableau.values, point, List.ofFn_eq_map]
  exact List.map_congr_left fun j _ => hsolved.value_eq_vertex hnonneg hlt _

/-- The reported objective is the right-hand side of the costs, counted as the objective is. -/
theorem objective_solution (p : Problem ℚ) (tolerance : ℚ) (t : Tableau ℚ p.shape)
    (iterations : Nat) :
    (p.solution tolerance t iterations).objective = -p.sign * t.costs.bound := by
  have hobjective : (p.solution tolerance t iterations).objective
      = (if p.maximize then t.costs.bound else -t.costs.bound) + 0 := rfl
  rw [hobjective, add_zero, sign]
  split
  · rw [neg_neg, one_mul]
  · rw [neg_one_mul]

namespace IsFinal

theorem values_eq (h : p.IsFinal t) : t.values 0 = p.point t.vertex :=
  values_eq_point h.isPhase.isFormOf.solved le_rfl zero_lt_one

/-- The vertex of a final tableau is feasible. -/
theorem isFeasible_vertex (h : p.IsFinal t) : p.IsFeasible (p.point t.vertex) :=
  h.isPhase.isFeasible_vertex h.isIdle

theorem isPriced (h : p.IsFinal t) : p.IsPriced p.startCosts t := h.isPhase.isPriced

/-- No feasible point costs less than the vertex. -/
theorem le_sign_mul_evaluate (h : p.IsFinal t) {y : List ℚ} (hy : p.IsFeasible y) :
    -t.costs.bound ≤ p.sign * p.evaluate y := by
  have hcost : ∀ j : Fin p.shape.columns, j.val < p.shape.proper → -0 ≤ t.cost j := by
    simpa using h.cost_nonneg
  have hle := h.isPriced.le_sign_mul_evaluate hcost hy
  rwa [zero_mul, sub_zero] at hle

/-- **The vertex of a final tableau is optimal.** -/
theorem isOptimal_vertex (h : p.IsFinal t) : p.IsOptimal (p.point t.vertex) := by
  refine ⟨h.isFeasible_vertex, fun y hy => ?_⟩
  rw [noWorse_iff, h.isPriced.sign_mul_evaluate_vertex]
  exact h.le_sign_mul_evaluate hy

end IsFinal

/-- A row of each kind, one that follows from another, and one with a negative bound. -/
def mixed : Problem ℚ where
  objective := [3, 2]
  maximize := true
  rows := [⟨"most", [1, 1], .atMost, 4⟩, ⟨"least", [1, 3], .atLeast, 2⟩,
    ⟨"exact", [2, 2], .equal, 8⟩, ⟨"negative", [-1, 1], .atMost, -1⟩]

end Problem

namespace Solver

/-- The values of a solution are feasible, as for every final tableau. -/
theorem solve_ok_isFeasible {solver : Solver ℚ} {p : Problem ℚ} {solution : Solution ℚ}
    (htol : solver.tolerance = 0) (hfeas : ∃ x, p.IsFeasible x)
    (h : (solver.solve p).result = .ok solution) : p.IsFeasible solution.values := by
  obtain ⟨t, iterations, hfinal, rfl⟩ := solve_ok_isFinal htol hfeas h
  show p.IsFeasible (t.values 0)
  rw [hfinal.values_eq]
  exact hfinal.isFeasible_vertex

/-- **Solutions are optimal points.** If a problem has a feasible point at all, in whichever mode
and with whatever budget, the values of a solution are feasible and no feasible point has a better
objective. -/
theorem solve_isOptimal {solver : Solver ℚ} {p : Problem ℚ} {solution : Solution ℚ}
    (htol : solver.tolerance = 0) (hfeas : ∃ x, p.IsFeasible x)
    (h : (solver.solve p).result = .ok solution) : p.IsOptimal solution.values := by
  obtain ⟨t, iterations, hfinal, rfl⟩ := solve_ok_isFinal htol hfeas h
  show p.IsOptimal (t.values 0)
  rw [hfinal.values_eq]
  exact hfinal.isOptimal_vertex

theorem solve_mixed_isOptimal : ∃ solution,
    (solve ⟨none, 0, true⟩ Problem.mixed).result = .ok solution ∧
      solution.values = [4, 0] ∧ Problem.mixed.IsOptimal solution.values := by
  have hsolve : (solve ⟨none, 0, true⟩ Problem.mixed).result = .ok
      { values := [4, 0]
        objective := 12
        iterations := 4
        rows := [⟨"most", 4, 0, 0, true⟩, ⟨"least", 4, 2, 0, false⟩, ⟨"exact", 8, 0, 3 / 2, true⟩,
          ⟨"negative", -4, 3, 0, false⟩] } := by decide +kernel
  have hfeas : Problem.mixed.IsFeasible [4, 0] := by decide +kernel
  exact ⟨_, hsolve, rfl, solve_isOptimal rfl ⟨_, hfeas⟩ hsolve⟩

end Solver

end Baggage.LinearProgram

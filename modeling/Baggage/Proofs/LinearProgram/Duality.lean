import Baggage.Proofs.LinearProgram.Multipliers
import Baggage.Proofs.LinearProgram.Optimality

/-!
# Baggage.Proofs.LinearProgram.Duality

**The shadow prices of a solution certify it.** They are a feasible point of the dual problem with
the same objective, and they are complementary to the values: only rows without slack have a price,
and only variables whose price is met by the rows have a value. `Solution.IsCertificate` says this
of a solution and the problem alone.

With a tolerance of zero every solution is one. A shadow price is the final cost of a slack column
up to sign, and a final tableau has no negative cost; a column with a cost is not basic and hence
zero at the vertex.
-/

namespace Baggage.LinearProgram

/-- A quantity of the rows, such as their bounds, added up at the rows' shadow prices. -/
def Solution.priced (solution : Solution ℚ) (p : Problem ℚ) (quantity : Row ℚ → ℚ) : ℚ :=
  ((p.rows.zip solution.rows).map fun (row, report) => report.shadowPrice * quantity row).sum

/-- The shadow prices are feasible for the dual problem, have the same objective, and are
complementary to the values. -/
structure Solution.IsCertificate (solution : Solution ℚ) (p : Problem ℚ) : Prop where
  /-- Every row has a report. -/
  length_eq : solution.rows.length = p.rows.length
  /-- The priced bounds make up the objective. -/
  priced_bound : solution.priced p Row.bound = solution.objective
  /-- The priced coefficients of a variable are at least its coefficient in the objective when
  maximising, and at most that when minimising. -/
  noWorse_priced : ∀ j < p.variableCount,
    p.NoWorse (solution.priced p fun row => row.coefficients.getD j 0) (p.objective.getD j 0)
  /-- The price of an upper bound is not negative when maximising, not positive when minimising. -/
  noWorse_atMost : ∀ row report, (row, report) ∈ p.rows.zip solution.rows →
    row.relation = .atMost → p.NoWorse report.shadowPrice 0
  /-- The price of a lower bound is not positive when maximising, not negative when minimising. -/
  noWorse_atLeast : ∀ row report, (row, report) ∈ p.rows.zip solution.rows →
    row.relation = .atLeast → p.NoWorse 0 report.shadowPrice
  /-- A row with a price has no slack and is reported as binding. -/
  binding_of_price : ∀ report ∈ solution.rows, report.shadowPrice ≠ 0 →
    report.slack = 0 ∧ report.binding = true
  /-- A variable with a value has exactly the price of its coefficients. -/
  priced_of_value : ∀ j < p.variableCount, solution.values.getD j 0 ≠ 0 →
    solution.priced p (fun row => row.coefficients.getD j 0) = p.objective.getD j 0

namespace Problem

variable {p : Problem ℚ} {t : Tableau ℚ p.shape}

/-! ### Reports and rows -/

theorem zip_rows_solution (p : Problem ℚ) (tolerance : ℚ) (t : Tableau ℚ p.shape)
    (iterations : Nat) : p.rows.zip (p.solution tolerance t iterations).rows
      = (List.finRange p.shape.rows).map fun i =>
        (p.row i, p.rowReport t.costs (t.values tolerance) i) := by
  have hreports : (p.solution tolerance t iterations).rows
      = (List.finRange p.shape.rows).map (p.rowReport t.costs (t.values tolerance)) := rfl
  rw [hreports]
  nth_rewrite 1 [← p.map_row_finRange]
  exact List.zip_map'

theorem priced_solution (p : Problem ℚ) (tolerance : ℚ) (t : Tableau ℚ p.shape)
    (iterations : Nat) (quantity : Row ℚ → ℚ) :
    (p.solution tolerance t iterations).priced p quantity
      = ∑ i, (p.rowReport t.costs (t.values tolerance) i).shadowPrice * quantity (p.row i) := by
  rw [Solution.priced, zip_rows_solution, List.map_map, Fin.sum_univ_def]
  rfl

/-- The reports of a solution are those on the rows of the problem, in order. -/
theorem of_mem_zip_rows {tolerance : ℚ} {iterations : Nat} {row : Row ℚ} {report : RowReport ℚ}
    (h : (row, report) ∈ p.rows.zip (p.solution tolerance t iterations).rows) :
    ∃ i, row = p.row i ∧ report = p.rowReport t.costs (t.values tolerance) i := by
  rw [zip_rows_solution] at h
  obtain ⟨i, -, hi⟩ := List.mem_map.mp h
  obtain ⟨rfl, rfl⟩ := Prod.mk.inj hi
  exact ⟨i, rfl, rfl⟩

/-- A row without slack is reported as binding. -/
theorem binding_rowReport {costs : Equation ℚ p.shape.columns} {x : List ℚ} {i : Fin p.shape.rows}
    (h : (p.row i).slack x = 0) : (p.rowReport costs x i).binding = true := by
  have hbinding : (p.rowReport costs x i).binding = decide (Arithmetic.abs ((p.row i).slack x)
      ≤ bindingTolerance * (1 + Arithmetic.abs (p.row i).bound)) := rfl
  have htol : (0 : ℚ) ≤ bindingTolerance := Arithmetic.rat_ofDecimal_nonneg rfl
  rw [hbinding, h, Arithmetic.rat_abs, Arithmetic.rat_abs, abs_zero]
  exact decide_eq_true (mul_nonneg htol (add_nonneg zero_le_one (abs_nonneg _)))

/-! ### Complementary slackness -/

/-- A column with a cost is not basic. -/
theorem vertex_eq_zero_of_cost_ne_zero {objective : Equation ℚ p.shape.columns}
    (h : t.Prices objective) {j : Fin p.shape.columns} (hj : t.cost j ≠ 0) : t.vertex j = 0 := by
  refine t.vertex_eq_zero fun i hi => ?_
  subst hi
  exact absurd (h.cost_basicColumn i) hj

namespace IsFinal

variable {y : Fin p.shape.rows → ℚ}

/-- At the vertex of a final tableau the slack of a row that is no equation is the value of its
slack column. -/
theorem slack_eq_vertex (h : p.IsFinal t) {i : Fin p.shape.rows}
    (hrel : (p.row i).relation ≠ .equal) :
    (p.row i).slack (p.point t.vertex) = t.vertex (p.shape.slackColumn i) := by
  have hadmissible := h.isIdle.isAdmissible_vertex h.isPhase.isFeasible
  have hexcess := h.isPhase.isFormOf.solves_iff.mp h.isPhase.isFormOf.solved.solves_vertex i
  rw [equation_start, p.excess_startEquation_of_isAdmissible i hadmissible] at hexcess
  exact (Row.eq_slack_of_excess_eq_zero hexcess hrel).symm

/-- A row with a shadow price has no slack: the cost of its slack column is not zero either. -/
theorem slack_eq_zero (h : p.IsFinal t) (hy : p.IsMultiplied t y) {i : Fin p.shape.rows}
    (hprice : (p.rowReport t.costs (t.values 0) i).shadowPrice ≠ 0) :
    (p.row i).slack (t.values 0) = 0 := by
  by_cases hrel : (p.row i).relation = .equal
  · simp [Row.slack, hrel]
  · have hcost : t.cost (p.shape.slackColumn i) ≠ 0 :=
      fun hzero => hprice (hy.shadowPrice_eq_zero _ hrel hzero)
    rw [h.values_eq, h.slack_eq_vertex hrel]
    exact vertex_eq_zero_of_cost_ne_zero h.isPhase.prices hcost

/-- A variable whose column has a cost has no value. -/
theorem value_eq_zero (h : p.IsFinal t) {j : Fin p.shape.variableCount}
    (hcost : t.cost (p.shape.variableColumn j) ≠ 0) : (t.values 0).getD j 0 = 0 := by
  rw [h.values_eq, getD_point]
  exact vertex_eq_zero_of_cost_ne_zero h.isPhase.prices hcost

/-! ### The signs of the prices -/

theorem cost_slackColumn_nonneg (h : p.IsFinal t) (i : Fin p.shape.rows) :
    0 ≤ t.cost (p.shape.slackColumn i) :=
  h.cost_nonneg _ (Nat.add_lt_add_left i.isLt _)

theorem cost_variableColumn_nonneg (h : p.IsFinal t) (j : Fin p.shape.variableCount) :
    0 ≤ t.cost (p.shape.variableColumn j) :=
  h.cost_nonneg _ (Nat.lt_of_lt_of_le j.isLt (Nat.le_add_right _ _))

theorem noWorse_atMost (h : p.IsFinal t) (hy : p.IsMultiplied t y) (x : List ℚ)
    {i : Fin p.shape.rows} (hrel : (p.row i).relation = .atMost) :
    p.NoWorse (p.rowReport t.costs x i).shadowPrice 0 := by
  rw [hy.shadowPrice_atMost x hrel, ← zero_sub]
  exact p.noWorse_sub_sign_mul 0 (h.cost_slackColumn_nonneg i)

theorem noWorse_atLeast (h : p.IsFinal t) (hy : p.IsMultiplied t y) (x : List ℚ)
    {i : Fin p.shape.rows} (hrel : (p.row i).relation = .atLeast) :
    p.NoWorse 0 (p.rowReport t.costs x i).shadowPrice := by
  have hbetter := p.noWorse_sub_sign_mul (p.sign * t.cost (p.shape.slackColumn i))
    (h.cost_slackColumn_nonneg i)
  rwa [sub_self, ← hy.shadowPrice_atLeast x hrel] at hbetter

/-! ### The certificate -/

/-- **The solution read off a final tableau is certified by its shadow prices.** -/
theorem isCertificate (h : p.IsFinal t) (iterations : Nat) :
    (p.solution 0 t iterations).IsCertificate p := by
  obtain ⟨y, hy⟩ := h.isPhase.exists_multipliers
  have hpriced : ∀ j : Fin p.shape.variableCount,
      (p.solution 0 t iterations).priced p (fun row => row.coefficients.getD j 0)
        = p.objective.getD j 0 - p.sign * t.cost (p.shape.variableColumn j) := by
    intro j
    rw [priced_solution]
    exact hy.sum_shadowPrice_mul_coefficient _ j
  constructor
  · show ((List.finRange p.shape.rows).map _).length = p.rows.length
    rw [List.length_map, List.length_finRange]
  · rw [priced_solution, hy.sum_shadowPrice_mul_bound, objective_solution, neg_mul_eq_neg_mul]
  · intro j hj
    rw [hpriced ⟨j, hj⟩]
    exact p.noWorse_sub_sign_mul _ (h.cost_variableColumn_nonneg _)
  · intro row report hmem hrel
    obtain ⟨i, rfl, rfl⟩ := of_mem_zip_rows hmem
    exact h.noWorse_atMost hy _ hrel
  · intro row report hmem hrel
    obtain ⟨i, rfl, rfl⟩ := of_mem_zip_rows hmem
    exact h.noWorse_atLeast hy _ hrel
  · intro report hmem hprice
    obtain ⟨i, -, rfl⟩ := List.mem_map.mp hmem
    have hslack := h.slack_eq_zero hy hprice
    exact ⟨hslack, binding_rowReport hslack⟩
  · intro j hj hvalue
    have hcost : t.cost (p.shape.variableColumn ⟨j, hj⟩) = 0 := by
      by_contra hne
      exact hvalue (h.value_eq_zero hne)
    rw [hpriced ⟨j, hj⟩, hcost, mul_zero, sub_zero]

end IsFinal

end Problem

/-- **No variable that lowers the objective has a value**, where it has no negative coefficient and
all rows are upper bounds: what its coefficients cost at the shadow prices is not negative. -/
theorem Solution.IsCertificate.objective_nonneg {p : Problem ℚ} {solution : Solution ℚ}
    (h : solution.IsCertificate p) (hmax : p.maximize = true) {j : Nat}
    (hrows : ∀ row ∈ p.rows, row.relation = .atMost ∧ 0 ≤ row.coefficients.getD j 0)
    (hj : j < p.variableCount) (hvalue : solution.values.getD j 0 ≠ 0) :
    0 ≤ p.objective.getD j 0 := by
  rw [← h.priced_of_value j hj hvalue, Solution.priced]
  refine List.sum_nonneg fun term hterm => ?_
  obtain ⟨⟨row, report⟩, hmem, rfl⟩ := List.mem_map.mp hterm
  obtain ⟨hrelation, hcoefficient⟩ := hrows row (List.of_mem_zip hmem).1
  have hprice := h.noWorse_atMost row report hmem hrelation
  rw [Problem.NoWorse, if_pos hmax] at hprice
  exact mul_nonneg hprice hcoefficient

namespace Solver

/-- **Shadow prices are an optimal dual certificate.** If a problem has a feasible point at all, in
whichever mode and with whatever budget, the shadow prices of a solution are feasible for the dual
problem, have the same objective, and are complementary to the values. -/
theorem solve_isCertificate {solver : Solver ℚ} {p : Problem ℚ} {solution : Solution ℚ}
    (htol : solver.tolerance = 0) (hfeas : ∃ x, p.IsFeasible x)
    (h : (solver.solve p).result = .ok solution) : solution.IsCertificate p := by
  obtain ⟨t, iterations, hfinal, rfl⟩ := solve_ok_isFinal htol hfeas h
  exact hfinal.isCertificate iterations

theorem solve_mixed_isCertificate : ∃ solution,
    (solve ⟨none, 0, true⟩ { Problem.mixed with maximize := false }).result = .ok solution ∧
      solution.rows.map RowReport.shadowPrice = [0, 0, 5 / 4, -1 / 2] ∧
      solution.IsCertificate { Problem.mixed with maximize := false } := by
  have hsolve : (solve ⟨none, 0, true⟩ { Problem.mixed with maximize := false }).result = .ok
      { values := [5 / 2, 3 / 2]
        objective := 21 / 2
        iterations := 3
        rows := [⟨"most", 4, 0, 0, true⟩, ⟨"least", 7, 5, 0, false⟩, ⟨"exact", 8, 0, 5 / 4, true⟩,
          ⟨"negative", -1, 0, -1 / 2, true⟩] } := by decide +kernel
  have hfeas : { Problem.mixed with maximize := false }.IsFeasible [5 / 2, 3 / 2] := by
    decide +kernel
  exact ⟨_, hsolve, rfl, solve_isCertificate rfl ⟨_, hfeas⟩ hsolve⟩

end Solver

end Baggage.LinearProgram

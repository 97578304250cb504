import Baggage.Proofs.LinearProgram.Idle
import Baggage.Proofs.LinearProgram.Solver

/-!
# Baggage.Proofs.LinearProgram.Priced

**What holds of every tableau, whatever the tolerance.** With a tolerance above zero right-hand
sides may become negative, so a tableau need not belong to a phase. But every pivot, also one that
exchanges an artificial column, is on an entry whose size exceeds the tolerance and which therefore
is not zero. So the equations remain those of the starting tableau in solved form, and the costs
stand for the objective (`Problem.IsPriced`), from the start of a run to the tableau that a solution
is read from (`Solver.solve_ok_isPriced`).

Two facts about solutions need no more than that: the vertex has the objective that stands on the
right of the costs, and no feasible point is better by more than the costs that are left over.
-/

namespace Baggage.LinearProgram

namespace Problem

variable {p : Problem ℚ} {objective : Equation ℚ p.shape.columns} {t : Tableau ℚ p.shape}
  {tolerance : ℚ}

/-- What holds of every tableau of a run that is priced for an objective. -/
structure IsPriced (p : Problem ℚ) (objective : Equation ℚ p.shape.columns)
    (t : Tableau ℚ p.shape) : Prop where
  /-- The equations are those of the starting tableau, in solved form. -/
  isFormOf : t.IsFormOf p.start
  /-- The costs stand for the objective. -/
  prices : t.Prices objective

theorem isPriced_start (p : Problem ℚ) : p.IsPriced p.startCosts p.start :=
  ⟨p.isSolved_start.isFormOf, p.prices_start⟩

theorem IsPhase.isPriced (h : p.IsPhase objective t) : p.IsPriced objective t :=
  ⟨h.isFormOf, h.prices⟩

/-! ### Steps and runs -/

theorem IsPriced.repriced (h : p.IsPriced objective t) (next : Equation ℚ p.shape.columns) :
    p.IsPriced next (t.repriced next) :=
  ⟨h.isFormOf.repriced next, h.isFormOf.solved.prices_repriced next⟩

theorem IsPriced.pivot (h : p.IsPriced objective t) {r : Fin p.shape.rows}
    {c : Fin p.shape.columns} (hne : t.entry r c ≠ 0) : p.IsPriced objective (t.pivot r c) :=
  ⟨h.isFormOf.pivot hne, h.prices.pivot h.isFormOf.solved hne⟩

theorem IsPriced.walk (h : p.IsPriced objective t) (hnonneg : 0 ≤ tolerance) (limit : Nat)
    (made : List (Fin p.shape.rows × Fin p.shape.columns)) (budget : Nat) :
    p.IsPriced objective (LinearProgram.walk tolerance limit made budget t).tableau := by
  refine walk_induction (fun u r c hu hmove => ?_) made budget h
  exact hu.pivot ((Tableau.isPivot_of_move hmove).entry_ne_zero hnonneg)

/-- The turn of a row keeps the costs priced: if there is a pivot, its entry is not zero. -/
theorem IsPriced.driveOutRow (h : p.IsPriced objective t) (hnonneg : 0 ≤ tolerance)
    (i : Fin p.shape.rows) : p.IsPriced objective (t.driveOutRow tolerance i) := by
  rcases t.driveOutRow_cases tolerance i with ⟨hsame, -⟩ | ⟨c, hpivot, -, -, hentry⟩
  · rw [hsame]
    exact h
  · rw [hpivot]
    exact h.pivot (abs_pos.mp (lt_of_le_of_lt hnonneg hentry))

theorem IsPriced.driveOut (h : p.IsPriced objective t) (hnonneg : 0 ≤ tolerance) :
    p.IsPriced objective (t.driveOut tolerance) :=
  List.foldlRecOn _ _ h fun _ hu i _ => hu.driveOutRow hnonneg i

/-! ### The objective of the vertex and of feasible points -/

/-- The objective of the vertex stands on the right of the costs, even if artificial columns are
basic there: the objective does not see them. -/
theorem IsPriced.sign_mul_evaluate_vertex (h : p.IsPriced p.startCosts t) :
    p.sign * p.evaluate (p.point t.vertex) = -t.costs.bound := by
  rw [← excess_startCosts, h.prices.excess_vertex h.isFormOf.solved]

/-- No feasible point costs less than the vertex, but for the tolerance on each unit of its
columns. -/
theorem IsPriced.le_sign_mul_evaluate (h : p.IsPriced p.startCosts t)
    (hcost : ∀ j : Fin p.shape.columns, j.val < p.shape.proper → -tolerance ≤ t.cost j)
    {x : List ℚ} (hx : p.IsFeasible x) :
    -t.costs.bound - tolerance * ∑ j, p.lift x j ≤ p.sign * p.evaluate x := by
  have hsolves : t.Solves (p.lift x) := h.isFormOf.solves_iff.mpr hx.solves_lift
  have hle := h.prices.le_excess hcost hsolves hx.isAdmissible_lift
  rwa [excess_startCosts, point_lift hx.length_eq] at hle

end Problem

/-! ### Both phases -/

namespace Solver

variable {solver : Solver ℚ} {p : Problem ℚ}

theorem isPriced_firstWalk (hnonneg : 0 ≤ solver.tolerance) :
    p.IsPriced p.artificialCosts (solver.firstWalk p).tableau :=
  (p.isPriced_start.repriced _).walk hnonneg _ _ _

theorem prepare_ok_isPriced (hnonneg : 0 ≤ solver.tolerance) {t : Tableau ℚ p.shape}
    {before : Nat} (h : (solver.prepare p).result = .ok (t, before)) :
    p.IsPriced p.startCosts t := by
  rcases prepare_eq_ok h with ⟨-, rfl⟩ | ⟨-, -, rfl⟩
  · exact p.isPriced_start
  · exact ((isPriced_firstWalk hnonneg).driveOut hnonneg).repriced _

/-- **A solution is read from a priced tableau** in which no proper column has a cost below the
negated tolerance. -/
theorem solve_ok_isPriced (hnonneg : 0 ≤ solver.tolerance) {solution : Solution ℚ}
    (h : (solver.solve p).result = .ok solution) :
    ∃ t iterations, p.IsPriced p.startCosts t ∧
      (∀ j : Fin p.shape.columns, j.val < p.shape.proper → -solver.tolerance ≤ t.cost j) ∧
      solution = p.solution solver.tolerance t iterations := by
  obtain ⟨-, t, before, iterations, hprepare, hending, hsolution⟩ := solve_eq_ok h
  have hpriced : p.IsPriced p.startCosts (solver.secondWalk p t before).tableau :=
    (prepare_ok_isPriced hnonneg hprepare).walk hnonneg _ _ _
  exact ⟨_, iterations, hpriced, Walk.optimal_spec (solver.secondWalk_fits p t before) hending,
    hsolution⟩

end Solver

end Baggage.LinearProgram

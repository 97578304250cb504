import Baggage.Proofs.LinearProgram.History
import Baggage.Proofs.LinearProgram.Multipliers
import Baggage.Proofs.LinearProgram.Optimality

/-!
# Baggage.Proofs.LinearProgram.Representation

**What every tableau of a run is.** Its rows are the starting ones, solved for their basic columns
and with the same points that meet them, and its costs are those of the part of the run that it
belongs to, less a combination of the starting rows (`Problem.IsRepresentation`).

This holds for every tolerance that is not negative, since the size of every entry that a pivot is
made on exceeds the tolerance. Each step keeps it (`Solver.Step.isPriced`): a pivot of either walk,
the turn of a row in the exchange of artificial columns, whatever the sign of its entry, and both
changes of the costs. Hence it holds of all tableaus of a history.
-/

namespace Baggage.LinearProgram

/-- The objective that the costs stand for in a part of a run. -/
def Part.costs (p : Problem ℚ) : Part → Equation ℚ p.shape.columns
  | .start => p.startCosts
  | .search => p.artificialCosts
  | .exchange _ => p.artificialCosts
  | .improve => p.startCosts

namespace Problem

variable {p : Problem ℚ} {objective : Equation ℚ p.shape.columns} {t : Tableau ℚ p.shape}

/-- A tableau says the same as the starting one, and as an objective. -/
structure IsRepresentation (p : Problem ℚ) (objective : Equation ℚ p.shape.columns)
    (t : Tableau ℚ p.shape) : Prop where
  /-- Basic columns are variables, slacks or artificial columns. -/
  basicColumn_lt : ∀ i, (t.basicColumn i).val
    < p.variableCount + p.rows.length + p.rows.countP Row.needsArtificial
  /-- No column is basic in two rows. -/
  basicColumn_injective : Function.Injective t.basicColumn
  /-- A basic column has a one in its own row and zeros in all others. -/
  entry_basicColumn : ∀ i k, t.entry i (t.basicColumn k) = if i = k then 1 else 0
  /-- Basic columns cost nothing. -/
  cost_basicColumn : ∀ k, t.cost (t.basicColumn k) = 0
  /-- The rows are met by the points that meet the starting rows. -/
  solves_iff : ∀ z, t.Solves z ↔ p.start.Solves z
  /-- The costs are the objective less a combination of the starting rows. -/
  exists_multipliers : ∃ y : Fin p.shape.rows → ℚ,
    (∀ j, t.cost j = objective.coefficient j - ∑ i, y i * p.start.entry i j) ∧
      t.costs.bound = objective.bound - ∑ i, y i * p.start.bound i

theorem IsPriced.isRepresentation (h : p.IsPriced objective t) :
    p.IsRepresentation objective t where
  basicColumn_lt i := (t.basicColumn i).isLt
  basicColumn_injective := h.isFormOf.solved.basicColumn_injective
  entry_basicColumn := h.isFormOf.solved
  cost_basicColumn := h.prices.cost_basicColumn
  solves_iff _ := h.isFormOf.solves_iff
  exists_multipliers := h.prices.exists_multipliers h.isFormOf

end Problem

namespace Solver

variable {solver : Solver ℚ} {p : Problem ℚ}

/-- **Every step keeps the costs priced** for the objective of its part of the run. -/
theorem Step.isPriced (hnonneg : 0 ≤ solver.tolerance) {x y : Snapshot p.shape}
    (h : solver.Step p x y) (hx : p.IsPriced (x.part.costs p) x.tableau) :
    p.IsPriced (y.part.costs p) y.tableau := by
  cases h with
  | price => exact hx.repriced _
  | skip => exact hx
  | search hmove => exact hx.pivot ((Tableau.isPivot_of_move hmove).entry_ne_zero hnonneg)
  | find => exact hx
  | exchange i => exact hx.driveOutRow hnonneg i
  | restore => exact hx.repriced _
  | improve hmove => exact hx.pivot ((Tableau.isPivot_of_move hmove).entry_ne_zero hnonneg)

/-- **Every tableau of a run represents the problem.** The history of an accepted problem is the run
of the solver; in each of its tableaus the rows are solved for different columns that cost nothing,
the points that meet the rows are those of the starting tableau, and the costs are those of the part
of the run less a combination of the starting rows. -/
theorem history_isRepresentation (hnonneg : 0 ≤ solver.tolerance)
    (haccepted : p.fault? solver.phaseOne = none) :
    solver.IsRun p (solver.history p) (solver.solve p).result ∧
      ∀ x ∈ solver.history p, p.IsRepresentation (x.part.costs p) x.tableau := by
  have hrun := isRun_history haccepted
  have hpriced : ∀ x ∈ solver.history p, p.IsPriced (x.part.costs p) x.tableau :=
    hrun.induction (motive := fun x => p.IsPriced (x.part.costs p) x.tableau) p.isPriced_start
      fun _ _ hstep hx => hstep.isPriced hnonneg hx
  exact ⟨hrun, fun x hx => (hpriced x hx).isRepresentation⟩

/-- A search of three pivots, the turns of the four rows, one of them with a pivot on a negative
entry, and a last pivot. -/
theorem mixed_history_isRepresentation :
    (history ⟨none, 1 / 10 ^ 9, true⟩ Problem.mixed).map Snapshot.part
      = [.start, .search, .search, .search, .search, .exchange 0, .exchange 1, .exchange 2,
        .exchange 3, .exchange 4, .improve, .improve] ∧
    ∀ x ∈ history ⟨none, 1 / 10 ^ 9, true⟩ Problem.mixed,
      Problem.mixed.IsRepresentation (x.part.costs Problem.mixed) x.tableau := by
  have hnonneg : (0 : ℚ) ≤ 1 / 10 ^ 9 := by decide +kernel
  have haccepted : Problem.mixed.fault? true = none := by decide +kernel
  exact ⟨by decide +kernel, (history_isRepresentation hnonneg haccepted).2⟩

end Solver

end Baggage.LinearProgram

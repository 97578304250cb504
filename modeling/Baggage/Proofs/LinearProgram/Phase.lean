import Baggage.Proofs.LinearProgram.Move
import Baggage.Proofs.LinearProgram.Point
import Baggage.Proofs.LinearProgram.Vertex

/-!
# Baggage.Proofs.LinearProgram.Phase

**What holds of every tableau of a phase**, with a tolerance of zero. The tableau is a form of the
starting one, its costs stand for the objective of the phase, and no right-hand side is negative
(`Problem.IsPhase`). One pivot keeps this (`IsPhase.pivot`), hence a walk does (`IsPhase.walk`).

`Tableau.Prices.le_excess` is what the end of a phase is good for: once no proper column has a
negative cost, no admissible point is better than the vertex.
-/

namespace Baggage.LinearProgram

namespace Tableau

variable {s : Shape}

/-- Where the costs of all proper columns are at least `-tolerance`, the objective of an admissible
point is below that of the vertex by no more than the tolerance for each unit of its columns. -/
theorem Prices.le_excess {t : Tableau ℚ s} {objective : Equation ℚ s.columns}
    (h : t.Prices objective) {tolerance : ℚ}
    (hcost : ∀ j : Fin s.columns, j.val < s.proper → -tolerance ≤ t.cost j)
    {z : Fin s.columns → ℚ} (hsolves : t.Solves z) (hz : s.IsAdmissible z) :
    -t.costs.bound - tolerance * ∑ j, z j ≤ objective.excess z := by
  have hterm : ∀ j, -tolerance * z j ≤ t.cost j * z j := by
    intro j
    by_cases hj : j.val < s.proper
    · exact mul_le_mul_of_nonneg_right (hcost j hj) (hz.nonneg j)
    · rw [hz.artificial_eq_zero j (not_lt.mp hj), mul_zero, mul_zero]
  calc -t.costs.bound - tolerance * ∑ j, z j
      = ∑ j, -tolerance * z j - t.costs.bound := by
        rw [← Finset.mul_sum]
        ring
    _ ≤ ∑ j, t.cost j * z j - t.costs.bound :=
        sub_le_sub_right (Finset.sum_le_sum fun j _ => hterm j) _
    _ = objective.excess z := h.excess_eq hsolves

end Tableau

namespace Problem

variable {p : Problem ℚ} {objective : Equation ℚ p.shape.columns} {t : Tableau ℚ p.shape}

/-- What holds of every tableau of a phase with an objective. -/
structure IsPhase (p : Problem ℚ) (objective : Equation ℚ p.shape.columns)
    (t : Tableau ℚ p.shape) : Prop where
  /-- The equations are those of the starting tableau, in solved form. -/
  isFormOf : t.IsFormOf p.start
  /-- The costs stand for the objective. -/
  prices : t.Prices objective
  /-- No right-hand side is negative. -/
  isFeasible : t.IsFeasible

/-- A problem can begin from its own costs. -/
theorem isPhase_start (p : Problem ℚ) : p.IsPhase p.startCosts p.start :=
  ⟨p.isSolved_start.isFormOf, p.prices_start, p.isFeasible_start⟩

/-- A new phase begins where another one ended, with the costs of its own objective. -/
theorem IsPhase.repriced (h : p.IsPhase objective t) (next : Equation ℚ p.shape.columns) :
    p.IsPhase next (t.repriced next) :=
  ⟨h.isFormOf.repriced next, h.isFormOf.solved.prices_repriced next, h.isFeasible⟩

/-- Every pivot stays within the phase if no right-hand side becomes negative. -/
theorem IsPhase.pivot_of_isFeasible (h : p.IsPhase objective t) {r : Fin p.shape.rows}
    {c : Fin p.shape.columns} (hne : t.entry r c ≠ 0) (hfeas : (t.pivot r c).IsFeasible) :
    p.IsPhase objective (t.pivot r c) :=
  ⟨h.isFormOf.pivot hne, h.prices.pivot h.isFormOf.solved hne, hfeas⟩

theorem IsPhase.pivot (h : p.IsPhase objective t) {limit : Nat} {r : Fin p.shape.rows}
    {c : Fin p.shape.columns} (hpivot : Tableau.IsPivot 0 limit t r c) :
    p.IsPhase objective (t.pivot r c) :=
  h.pivot_of_isFeasible (hpivot.entry_ne_zero le_rfl) (hpivot.isFeasible h.isFeasible)

/-- **A walk stays within its phase.** -/
theorem IsPhase.walk (h : p.IsPhase objective t) (limit : Nat)
    (made : List (Fin p.shape.rows × Fin p.shape.columns)) (budget : Nat) :
    p.IsPhase objective (LinearProgram.walk 0 limit made budget t).tableau := by
  refine walk_induction (fun u r c hu hmove => ?_) made budget h
  exact hu.pivot (Tableau.isPivot_of_move hmove)

/-- Points that meet the rows of the problem solve every tableau of a phase. -/
theorem IsPhase.solves_lift (h : p.IsPhase objective t) {x : List ℚ} (hx : p.IsFeasible x) :
    t.Solves (p.lift x) := h.isFormOf.solves_iff.mpr hx.solves_lift

/-- No basic column is negative at the vertex. -/
theorem IsPhase.vertex_nonneg (h : p.IsPhase objective t) (j : Fin p.shape.columns) :
    0 ≤ t.vertex j := t.basicPoint_nonneg h.isFeasible j

end Problem

end Baggage.LinearProgram

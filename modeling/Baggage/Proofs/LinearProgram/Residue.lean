import Baggage.Proofs.LinearProgram.Nearly
import Baggage.Proofs.LinearProgram.Optimality
import Baggage.Proofs.LinearProgram.Scale

/-!
# Baggage.Proofs.LinearProgram.Residue

**What the first phase lets pass**, with a tolerance of zero. A sum of artificial columns below
`feasibilityTolerance` counts as zero. Exchanging a column that is not quite zero then divides its
value by the entry of the pivot, whatever its sign and however small, and the solution can be far
from feasible (`solve_faint_not_isFeasibleWithin`).

If all columns that are not zero stand in idle equations, no exchange touches them: the tableaus of
the second phase keep them as they are (`IsNearlyIdle`), and the solution misses the rows by no more
than them. There is no residue for problems with a feasible point, nor for those whose determinants
are too close in size to leave one so small.
-/

namespace Baggage.LinearProgram

namespace Tableau

variable {s : Shape} {t : Tableau ℚ s} {margin : ℚ}

/-- Artificial columns that are basic are at most a margin at the vertex. -/
def HasResidueWithin (t : Tableau ℚ s) (margin : ℚ) : Prop :=
  ∀ i, s.proper ≤ (t.basicColumn i).val → t.bound i ≤ margin

instance (t : Tableau ℚ s) (i : Fin s.rows) : Decidable (t.IsIdleAt i) :=
  inferInstanceAs (Decidable (s.proper ≤ (t.basicColumn i).val →
    ∀ j : Fin s.columns, j.val < s.proper → t.entry i j = 0))

instance (t : Tableau ℚ s) : Decidable t.HasIdleResidue :=
  inferInstanceAs (Decidable (∀ i, t.bound i ≠ 0 → t.IsIdleAt i))

/-- Artificial columns that are basic are small and have no influence on the proper ones. -/
structure IsNearlyIdle (t : Tableau ℚ s) (margin : ℚ) : Prop where
  residue_le : t.HasResidueWithin margin
  isIdleAt : ∀ i, t.IsIdleAt i

theorem HasNoArtificials.hasResidueWithin (h : t.HasNoArtificials) : t.HasResidueWithin 0 :=
  fun i hbasic => (h i hbasic).le

/-! ### Pivots in proper columns -/

theorem IsNearlyIdle.pivot {r : Fin s.rows} {c : Fin s.columns} (h : t.IsNearlyIdle margin)
    (hc : c.val < s.proper) : (t.pivot r c).IsNearlyIdle margin := by
  refine ⟨fun i hbasic => ?_, fun i => (h.isIdleAt i).pivot hc⟩
  -- an artificial column that is basic now was so before, in the same equation
  rw [(h.isIdleAt i).bound_pivot hc hbasic]
  exact h.residue_le i (basicColumn_of_proper_le_pivot hc hbasic).2

theorem IsNearlyIdle.walk (h : t.IsNearlyIdle margin) (made : List (Fin s.rows × Fin s.columns))
    (budget : Nat) : (LinearProgram.walk 0 s.proper made budget t).tableau.IsNearlyIdle margin := by
  refine walk_induction (motive := fun u => u.IsNearlyIdle margin) (fun u r c hu hmove => ?_)
    made budget h
  exact hu.pivot (isPivot_of_move hmove).column_lt

theorem IsNearlyIdle.repriced (h : t.IsNearlyIdle margin) (objective : Equation ℚ s.columns) :
    (t.repriced objective).IsNearlyIdle margin := ⟨h.residue_le, h.isIdleAt⟩

/-- At the vertex the artificial columns are at most the margin. -/
theorem IsNearlyIdle.vertex_le (h : t.IsNearlyIdle margin) (hsolved : t.IsSolved)
    (hmargin : 0 ≤ margin) {j : Fin s.columns} (hj : s.proper ≤ j.val) : t.vertex j ≤ margin := by
  by_cases hbasic : ∃ k, t.basicColumn k = j
  · obtain ⟨k, rfl⟩ := hbasic
    rw [hsolved.vertex_basicColumn]
    exact h.residue_le k hj
  · rwa [t.vertex_eq_zero fun i hi => absurd ⟨i, hi⟩ hbasic]

end Tableau

namespace Problem

variable {p : Problem ℚ} {objective : Equation ℚ p.shape.columns} {t : Tableau ℚ p.shape}
  {margin : ℚ}

/-- Exchanging the artificial columns keeps an idle residue as it is. -/
theorem IsPhase.driveOut_isNearlyIdle (h : p.IsPhase objective t)
    (hresidue : t.HasResidueWithin margin) (hidle : t.HasIdleResidue) :
    p.IsPhase objective (t.driveOut 0) ∧ (t.driveOut 0).IsNearlyIdle margin := by
  obtain ⟨hphase, hrows⟩ := h.driveOut_of_hasIdleResidue hidle
  refine ⟨hphase, fun i hbasic => ?_, t.isIdleAt_driveOut⟩
  rw [(hrows i).1]
  exact hresidue i ((hrows i).2 hbasic)

/-- The sum of the artificial columns is at least each of them. -/
theorem IsPhase.hasResidueWithin (h : p.IsPhase p.artificialCosts t) :
    t.HasResidueWithin (-t.costs.bound) := by
  intro i hbasic
  have hsolved : t.IsSolved := h.isFormOf.solved
  rw [← hsolved.vertex_basicColumn, ← h.prices.excess_vertex hsolved, excess_artificialCosts]
  have hnonneg : ∀ j ∈ Finset.univ, 0 ≤ if j.val < p.shape.proper then 0 else t.vertex j := by
    intro j _
    split
    · exact le_rfl
    · exact h.vertex_nonneg j
  have hterm := Finset.single_le_sum hnonneg (Finset.mem_univ (t.basicColumn i))
  rwa [if_neg (not_lt.mpr hbasic)] at hterm

/-- The vertex of a tableau with a small residue is nearly feasible. -/
theorem IsPhase.isFeasibleWithin_vertex (h : p.IsPhase objective t)
    (hidle : t.IsNearlyIdle margin) (hmargin : 0 ≤ margin) :
    p.IsFeasibleWithin margin (p.point t.vertex) := by
  have hsolved : t.IsSolved := h.isFormOf.solved
  exact isFeasibleWithin_point (h.isFormOf.solves_iff.mp hsolved.solves_vertex) h.vertex_nonneg
    hmargin fun j hj => hidle.vertex_le hsolved hmargin hj

/-- Where right-hand sides are scaled, what is within the margin is zero. -/
theorem HasScaledBounds.hasNoArtificials (hscaled : p.HasScaledBounds margin)
    (h : p.IsPhase objective t) (hresidue : t.HasResidueWithin margin) : t.HasNoArtificials := by
  intro i hbasic
  by_contra hne
  have hlt := hscaled.lt_abs_bound h.isFormOf p.isSolved_start hne
  rw [abs_of_nonneg (h.isFeasible i)] at hlt
  exact absurd (hresidue i hbasic) (not_le.mpr hlt)

/-- A row that no point meets, by little. -/
def faint : Problem ℚ where
  objective := [1]
  maximize := true
  rows := [⟨"least", [-1 / 1000], .atLeast, 1 / 10 ^ 8⟩]

/-- Twice the same left-hand side, with bounds that differ by little. -/
def repeated : Problem ℚ where
  objective := [1]
  maximize := true
  rows := [⟨"first", [1], .equal, 2⟩, ⟨"second", [1], .equal, 2 + 1 / 10 ^ 8⟩]

/-- A row whose numbers are of one size. -/
def settled : Problem ℚ where
  objective := [1]
  maximize := false
  rows := [⟨"least", [2], .atLeast, 3⟩]

end Problem

namespace Solver

variable {solver : Solver ℚ} {p : Problem ℚ} {margin : ℚ}

theorem feasibilityTolerance_eq : (feasibilityTolerance : ℚ) = 1 / 10 ^ 7 := by decide +kernel

/-- What the first phase hands on has no greater residue than it tolerates. -/
theorem hasResidueWithin_firstWalk (htol : solver.tolerance = 0) {t : Tableau ℚ p.shape}
    {before : Nat} (h : (solver.prepare p).result = .ok (t, before)) :
    (solver.firstWalk p).tableau.HasResidueWithin (1 / 10 ^ 7) := by
  intro i hbasic
  rcases prepare_eq_ok h with ⟨hnone, -⟩ | ⟨-, hle, -⟩
  · have hidle := Tableau.isIdle_of_artificials_eq_zero hnone (solver.firstWalk p).tableau
    rw [hidle.hasNoArtificials i hbasic]
    positivity
  · rw [feasibilityTolerance_eq] at hle
    exact le_trans ((isPhase_firstWalk htol).hasResidueWithin i hbasic) hle

/-- If the residue of the first phase is idle, the second phase starts with no other one. -/
theorem prepare_isNearlyIdle (htol : solver.tolerance = 0) (hmargin : 0 ≤ margin)
    (hresidue : (solver.firstWalk p).tableau.HasResidueWithin margin)
    (hidle : (solver.firstWalk p).tableau.HasIdleResidue) {t : Tableau ℚ p.shape} {before : Nat}
    (h : (solver.prepare p).result = .ok (t, before)) :
    p.IsPhase p.startCosts t ∧ t.IsNearlyIdle margin := by
  rcases prepare_eq_ok h with ⟨hnone, rfl⟩ | ⟨-, -, rfl⟩
  · have hstart := Tableau.isIdle_of_artificials_eq_zero hnone p.start
    refine ⟨p.isPhase_start, fun i hbasic => ?_, hstart.isIdleAt⟩
    exact le_of_eq_of_le (hstart.hasNoArtificials i hbasic) hmargin
  · obtain ⟨hphase, hnearly⟩ := (isPhase_firstWalk htol).driveOut_isNearlyIdle hresidue hidle
    rw [prepared, htol]
    exact ⟨hphase.repriced _, hnearly.repriced _⟩

/-- **A solution misses the rows by no more than the residue**, if that is idle. -/
theorem isFeasibleWithin_of_residue (htol : solver.tolerance = 0) (hmargin : 0 ≤ margin)
    (hresidue : (solver.firstWalk p).tableau.HasResidueWithin margin)
    (hidle : (solver.firstWalk p).tableau.HasIdleResidue) {solution : Solution ℚ}
    (h : (solver.solve p).result = .ok solution) : p.IsFeasibleWithin margin solution.values := by
  obtain ⟨-, t, before, iterations, hprepare, -, rfl⟩ := solve_eq_ok h
  obtain ⟨hphase, hnearly⟩ := prepare_isNearlyIdle htol hmargin hresidue hidle hprepare
  -- the second phase enters proper columns only, so it does not touch the residue
  have hlast : p.IsPhase p.startCosts (solver.secondWalk p t before).tableau ∧
      (solver.secondWalk p t before).tableau.IsNearlyIdle margin := by
    rw [secondWalk, htol]
    exact ⟨hphase.walk _ _ _, hnearly.walk _ _⟩
  show p.IsFeasibleWithin margin ((solver.secondWalk p t before).tableau.values solver.tolerance)
  rw [htol, Problem.values_eq_point hlast.1.isFormOf.solved le_rfl zero_lt_one]
  exact hlast.1.isFeasibleWithin_vertex hlast.2 hmargin

/-- **Solutions of the two-phase method are nearly feasible** if the residue of the first phase is
idle, and feasible if there is a feasible point at all or the right-hand sides are scaled. -/
theorem solve_isFeasibleWithin {solution : Solution ℚ} (htol : solver.tolerance = 0)
    (h : (solver.solve p).result = .ok solution) :
    ((solver.firstWalk p).tableau.HasIdleResidue →
        p.IsFeasibleWithin (1 / 10 ^ 7) solution.values) ∧
      ((∃ x, p.IsFeasible x) ∨ p.HasScaledBounds (1 / 10 ^ 7) →
        p.IsFeasible solution.values) := by
  obtain ⟨-, t, before, -, hprepare, -⟩ := solve_eq_ok h
  have hresidue := hasResidueWithin_firstWalk htol hprepare
  refine ⟨fun hidle => ?_, ?_⟩
  · exact isFeasibleWithin_of_residue htol (by positivity) hresidue hidle h
  · rintro (hfeas | hscaled)
    · obtain ⟨u, iterations, hfinal, rfl⟩ := solve_ok_isFinal htol hfeas h
      show p.IsFeasible (u.values 0)
      rw [hfinal.values_eq]
      exact hfinal.isFeasible_vertex
    · -- no residue is so small without being zero
      have hzero := hscaled.hasNoArtificials (isPhase_firstWalk htol) hresidue
      exact Problem.isFeasibleWithin_zero_iff.mp (isFeasibleWithin_of_residue htol le_rfl
        hzero.hasResidueWithin hzero.hasIdleResidue h)

theorem solve_repeated_isFeasibleWithin :
    (∃ solution, (solve ⟨none, 0, true⟩ Problem.repeated).result = .ok solution ∧
      Problem.repeated.IsFeasibleWithin (1 / 10 ^ 7) solution.values ∧
      ¬ Problem.repeated.IsFeasible solution.values) ∧
    ∃ solution, (solve ⟨none, 0, true⟩ Problem.settled).result = .ok solution ∧
      Problem.settled.IsFeasible solution.values := by
  have hrepeated : (solve ⟨none, 0, true⟩ Problem.repeated).result = .ok
      { values := [2]
        objective := 2
        iterations := 1
        rows := [⟨"first", 2, 0, 1, true⟩, ⟨"second", 2, 0, 0, true⟩] } := by decide +kernel
  have hidle : (firstWalk ⟨none, 0, true⟩ Problem.repeated).tableau.HasIdleResidue := by
    decide +kernel
  have hsettled : (solve ⟨none, 0, true⟩ Problem.settled).result = .ok
      { values := [3 / 2]
        objective := 3 / 2
        iterations := 1
        rows := [⟨"least", 3, 0, 1 / 2, true⟩] } := by decide +kernel
  have hscaled : Problem.settled.HasScaledBounds (1 / 10 ^ 7) :=
    Problem.hasScaledBounds_of_whole (by decide +kernel) (by decide +kernel) (by decide +kernel)
  refine ⟨⟨_, hrepeated, (solve_isFeasibleWithin rfl hrepeated).1 hidle, by decide +kernel⟩,
    _, hsettled, (solve_isFeasibleWithin rfl hsettled).2 (Or.inr hscaled)⟩

/-- **A row that no point meets is passed over** when its artificial column is exchanged on a small
negative entry. -/
theorem solve_faint_not_isFeasibleWithin : Problem.faint.fault? true = none ∧ ∃ solution,
    (solve ⟨none, 0, true⟩ Problem.faint).result = .ok solution ∧
      ¬ Problem.faint.IsFeasibleWithin (1 / 10 ^ 6) solution.values := by
  have haccepted : Problem.faint.fault? true = none := by decide +kernel
  have hsolve : (solve ⟨none, 0, true⟩ Problem.faint).result = .ok
      { values := [-1 / 10 ^ 5]
        objective := -1 / 10 ^ 5
        iterations := 0
        rows := [⟨"least", 1 / 10 ^ 8, 0, -1000, true⟩] } := by decide +kernel
  exact ⟨haccepted, _, hsolve, by decide +kernel⟩

end Solver

end Baggage.LinearProgram

import Baggage.Proofs.LinearProgram.Gap
import Baggage.Proofs.Selection.Budgets

/-!
# Baggage.Proofs.Selection.Relaxation

**The relaxation lies above every choice.** Its points are shares of the pieces. A choice is such a
point, with whole shares, and the two rows of the relaxation then say that it fits, in kilograms and
without any rounding (`Fits.isFeasible_wholeShares`). So the objective of a solution is no less than
the value of any choice that fits (`value_le_objective_relaxation`).

That includes the exact choice as far as its rounding to steps loses nothing. A piece that is kept
although it is a little too heavy fits in steps only, and may well be worth more than the
relaxation.
-/

namespace Baggage.Selection

open LinearProgram (Problem Solution Solver)
open Selector (keptPieces)

/-! ### Shares of pieces -/

/-- The sum of a measure of the pieces, each counted by its share. -/
def shareSum (measure : Piece ℚ → ℚ) (pieces : List (Piece ℚ)) (shares : List ℚ) : ℚ :=
  Arithmetic.dot (pieces.map measure) shares

section ShareSum

variable (measure : Piece ℚ → ℚ)

@[simp] theorem shareSum_nil_left (shares : List ℚ) : shareSum measure [] shares = 0 := by
  simp [shareSum, Arithmetic.dot, Arithmetic.rat_sum]

@[simp] theorem shareSum_nil_right (pieces : List (Piece ℚ)) : shareSum measure pieces [] = 0 := by
  simp [shareSum, Arithmetic.dot, Arithmetic.rat_sum]

@[simp] theorem shareSum_cons (piece : Piece ℚ) (pieces : List (Piece ℚ)) (share : ℚ)
    (shares : List ℚ) :
    shareSum measure (piece :: pieces) (share :: shares)
      = measure piece * share + shareSum measure pieces shares := by
  simp only [shareSum, Arithmetic.dot, Arithmetic.rat_sum, List.map_cons, List.zipWith_cons_cons,
    List.sum_cons]
  rfl

/-- The shares of a choice: all of a kept piece and nothing of the others. -/
def wholeShares (kept : List Bool) : List ℚ := kept.map fun keep => if keep then 1 else 0

theorem shareSum_wholeShares (pieces : List (Piece ℚ)) (kept : List Bool) :
    shareSum measure pieces (wholeShares kept) = keptSum measure pieces kept := by
  induction pieces generalizing kept with
  | nil => simp
  | cons piece pieces ih =>
      cases kept with
      | nil => simp [wholeShares]
      | cons keep kept =>
          have hrest := ih kept
          rw [wholeShares] at hrest
          cases keep with
          | false => simp [wholeShares, hrest]
          | true => simp [wholeShares, hrest]

end ShareSum

/-- Each kept piece counts as one. -/
theorem keptSum_one (pieces : List (Piece ℚ)) (kept : List Bool) :
    keptSum (fun _ => (1 : ℚ)) pieces kept = (keptPieces pieces kept).length := by
  simp [keptSum]

/-! ### Points of the relaxation -/

section Points

variable {s : Selector ℚ}

/-- Shares are feasible if none is negative and both budgets hold for what they add up to. -/
theorem isFeasible_relaxation_iff {shares : List ℚ} :
    s.relaxation.IsFeasible shares ↔ shares.length = s.pieces.length ∧ (∀ x ∈ shares, 0 ≤ x) ∧
      shareSum Piece.weight s.pieces shares ≤ s.budget.maxWeight ∧
      shareSum (fun _ => 1) s.pieces shares ≤ s.budget.maxPieces := by
  have hcount : s.relaxation.variableCount = s.pieces.length := List.length_map _
  have hrows : (∀ row ∈ s.relaxation.rows, row.IsMet shares) ↔
      shareSum Piece.weight s.pieces shares ≤ s.budget.maxWeight ∧
        shareSum (fun _ => 1) s.pieces shares ≤ Arithmetic.ofNat s.budget.maxPieces := by
    simp only [Selector.relaxation, List.forall_mem_cons, List.not_mem_nil, false_implies,
      implies_true, and_true]
    rfl
  rw [Arithmetic.rat_ofNat] at hrows
  constructor
  · rintro ⟨hlength, hnonneg, hmet⟩
    exact ⟨hlength.trans hcount, hnonneg, hrows.mp hmet⟩
  · rintro ⟨hlength, hnonneg, hbudgets⟩
    exact ⟨hlength.trans hcount.symm, hnonneg, hrows.mpr hbudgets⟩

theorem evaluate_relaxation (shares : List ℚ) :
    s.relaxation.evaluate shares = shareSum Piece.value s.pieces shares := rfl

/-- A choice that fits is a feasible point. -/
theorem Fits.isFeasible_wholeShares {kept : List Bool}
    (h : Fits Piece.weight s.pieces s.budget.maxPieces s.budget.maxWeight kept) :
    s.relaxation.IsFeasible (wholeShares kept) := by
  refine isFeasible_relaxation_iff.mpr ⟨?_, ?_, ?_, ?_⟩
  · rw [wholeShares, List.length_map, h.length_eq]
  · intro x hx
    obtain ⟨keep, -, rfl⟩ := List.mem_map.mp hx
    cases keep with
    | false => exact le_rfl
    | true => exact zero_le_one
  · rw [shareSum_wholeShares]
    exact h.size_le
  · rw [shareSum_wholeShares, keptSum_one]
    exact_mod_cast h.count_le

/-- Since no budget is negative, the relaxation is in standard form. -/
theorem fault?_relaxation (hbudget : 0 ≤ s.budget.maxWeight) :
    s.relaxation.fault? false = none := by
  have hcount : (0 : ℚ) ≤ Arithmetic.ofNat s.budget.maxPieces := by
    rw [Arithmetic.rat_ofNat]
    positivity
  rw [Problem.fault?_eq_none_iff]
  simp [Selector.relaxation, Problem.variableCount, hbudget, hcount]

end Points

/-! ### Solutions of the relaxation -/

namespace Selector

variable {weights values : List ℚ} {budget : Budget ℚ} {s : Selector ℚ} {solver : Solver ℚ}
  {solution : Solution ℚ}

theorem isFeasible_of_solve_relaxation (hbudget : 0 ≤ s.budget.maxWeight)
    (htol : solver.tolerance = 0) (h : (solver.solve s.relaxation).result = .ok solution) :
    s.relaxation.IsFeasible solution.values :=
  solver.solve_ok_isFeasible htol ⟨_, Problem.isFeasible_origin (fault?_relaxation hbudget)⟩ h

/-- No choice that fits is worth more than the objective of a solution. -/
theorem keptSum_value_le_objective (htol : solver.tolerance = 0)
    (h : (solver.solve s.relaxation).result = .ok solution) {kept : List Bool}
    (hfits : Fits Piece.weight s.pieces s.budget.maxPieces s.budget.maxWeight kept) :
    keptSum Piece.value s.pieces kept ≤ solution.objective := by
  have hle := Solver.solve_sub_le_sign_mul_evaluate htol.ge h hfits.isFeasible_wholeShares
  have hsign : s.relaxation.sign = -1 := rfl
  rw [htol, hsign, evaluate_relaxation, shareSum_wholeShares] at hle
  linarith

/-- **The objective of the relaxation is a bound for every choice** that keeps to both budgets in
kilograms, and where all weights are whole hundredths also for what the exact strategy reports. -/
theorem value_le_objective_relaxation (hcreate : create weights values budget = .ok s)
    (htol : solver.tolerance = 0) (h : (solver.solve s.relaxation).result = .ok solution) :
    (∀ kept, Fits Piece.weight s.pieces budget.maxPieces budget.maxWeight kept →
      keptSum Piece.value s.pieces kept ≤ solution.objective) ∧
    ((∀ weight ∈ weights, IsHundredths weight) → IsHundredths budget.maxWeight →
      ∀ (rate : ℚ) {choice : Choice ℚ},
        ({ s with strategy := .exact, excessRate := rate, solver := solver } :
          Selector ℚ).choose.result = .ok choice → choice.value ≤ solution.objective) := by
  obtain ⟨-, rfl, -⟩ := create_eq_ok hcreate
  refine ⟨fun kept hfits => keptSum_value_le_objective htol h hfits, ?_⟩
  intro hweights hbudget rate choice hchoose
  obtain ⟨kept, hkept, rfl⟩ := choose_exact_eq_ok rfl hchoose
  rw [value_total]
  -- what fits in steps fits in kilograms here
  have hpieces : ∀ piece ∈ s.pieces, IsHundredths piece.weight :=
    fun piece hpiece => hweights _ (weight_of_create hcreate hpiece).1
  have hfits := (knapsack?_isBest_stepCount hkept).fits
  exact keptSum_value_le_objective htol h ((fits_stepCount_iff hpieces hbudget).mpr hfits)

/-- A selector for two pieces that together are a hundredth too heavy. -/
def uneven : Selector ℚ :=
  { pieces := [⟨2 / 100, 1⟩, ⟨10 / 100, 4⟩]
    budget := ⟨11 / 100, 2, 0⟩
    strategy := .relaxation
    excessRate := standardExcessRate
    solver := .standard }

theorem create_uneven : create [2 / 100, 10 / 100] [1, 4] ⟨11 / 100, 2, 0⟩ = .ok uneven := by
  norm_num [create, fault?, isAmount, List.findIdx?_cons, uneven]

theorem solve_uneven : (Solver.solve ⟨none, 0, false⟩ uneven.relaxation).result = .ok
    { values := [9 / 8, 7 / 8]
      objective := 37 / 8
      iterations := 2
      rows := [⟨"weight", 11 / 100, 0, 75 / 2, true⟩, ⟨"pieces", 2, 0, 1 / 4, true⟩] } := by
  decide +kernel

theorem uneven_value_le_objective_relaxation : ∃ solution choice,
    create [2 / 100, 10 / 100] [1, 4] ⟨11 / 100, 2, 0⟩ = .ok uneven ∧
      (Solver.solve ⟨none, 0, false⟩ uneven.relaxation).result = .ok solution ∧
      ({ uneven with strategy := .exact, solver := ⟨none, 0, false⟩ } : Selector ℚ).choose.result
        = .ok choice ∧
      choice.kept = [false, true] ∧ choice.value ≤ solution.objective ∧
      keptSum Piece.value uneven.pieces [true, false] ≤ solution.objective := by
  have htol : (⟨none, 0, false⟩ : Solver ℚ).tolerance = 0 := rfl
  obtain ⟨hchoices, hexact⟩ := value_le_objective_relaxation create_uneven htol solve_uneven
  have hkept : knapsack? uneven.pieces (11 / 100) 2 = some [false, true] := by decide +kernel
  have hchoose : ({ uneven with strategy := .exact, solver := ⟨none, 0, false⟩ } :
      Selector ℚ).choose.result = .ok
        (({ uneven with strategy := .exact, solver := ⟨none, 0, false⟩ } : Selector ℚ).total
          [false, true]) := choose_exact_of_eq_some rfl hkept
  have hweights : ∀ weight ∈ [2 / 100, 10 / 100], IsHundredths weight := by
    simp only [List.forall_mem_cons]
    exact ⟨⟨2, by norm_num⟩, ⟨10, by norm_num⟩, List.forall_mem_nil _⟩
  have hbudget : IsHundredths (11 / 100) := ⟨11, by norm_num⟩
  have hfits : Fits Piece.weight uneven.pieces 2 (11 / 100) [true, false] :=
    ⟨rfl, by decide, by decide +kernel⟩
  exact ⟨_, _, create_uneven, solve_uneven, hchoose, rfl,
    hexact hweights hbudget standardExcessRate hchoose, hchoices _ hfits⟩

end Selector

end Baggage.Selection

import Baggage.Proofs.LinearProgram.Support
import Baggage.Proofs.Selection.Relaxation

/-!
# Baggage.Proofs.Selection.Rounding

**How far rounded shares stray from the budgets.** The relaxation has two rows, so at most two of
its shares differ from zero, and no others can exceed the threshold. At most two pieces are kept
(`pieces_le_two`), however many are allowed and in every arithmetic whose threshold is not below
zero.

Over the rational numbers a kept piece has a share of more than a half, so what the kept pieces
measure is less than twice what the shares measure (`keptSum_rounded_eq_zero_or_lt`). For the weight
this means no more than twice the budget. For the number of pieces it means less than twice what is
allowed, and as there are no more than two of them, no more than allowed
(`choose_relaxation_within`).
-/

namespace Baggage.Selection

open LinearProgram (Problem Solution Solver)
open Selector (keptPieces threshold)

/-- The pieces whose shares exceed the threshold. -/
def rounded {α : Type} [Arithmetic α] (shares : List α) : List Bool :=
  shares.map fun share => Arithmetic.lt threshold share

theorem threshold_eq : (threshold : ℚ) = 1 / 2 := by cbv

/-! ### The choice of the relaxation -/

namespace Selector

variable {α : Type} [Arithmetic α] {s : Selector α} {choice : Choice α}

/-- The relaxation strategy keeps what the shares of a solution are rounded to. -/
theorem keep_relaxation_eq_ok_iff (hrelaxation : s.strategy = .relaxation) {kept : List Bool} :
    s.keep.result = .ok kept ↔ ∃ solution,
      (s.solver.solve s.relaxation).result = .ok solution ∧ kept = rounded solution.values := by
  unfold keep
  rw [hrelaxation]
  dsimp only [Logged.result_map]
  cases (s.solver.solve s.relaxation).result with
  | error e => simp
  | ok solution => simp [rounded, eq_comm]

/-- It fails as the solver does. -/
theorem keep_relaxation_eq_error_iff (hrelaxation : s.strategy = .relaxation)
    {e : SelectionError α} : s.keep.result = .error e ↔ ∃ cause,
      (s.solver.solve s.relaxation).result = .error cause ∧ e = .unsolved cause := by
  unfold keep
  rw [hrelaxation]
  dsimp only [Logged.result_map]
  cases (s.solver.solve s.relaxation).result with
  | error cause => simp [eq_comm]
  | ok solution => simp

theorem choose_relaxation_of_eq_ok (hrelaxation : s.strategy = .relaxation)
    {solution : Solution α} (h : (s.solver.solve s.relaxation).result = .ok solution) :
    s.choose.result = .ok (s.total (rounded solution.values)) :=
  choose_eq_ok_iff.mpr ⟨_, (keep_relaxation_eq_ok_iff hrelaxation).mpr ⟨solution, h, rfl⟩, rfl⟩

theorem choose_relaxation_eq_ok (hrelaxation : s.strategy = .relaxation)
    (h : s.choose.result = .ok choice) :
    ∃ solution, (s.solver.solve s.relaxation).result = .ok solution ∧
      choice = s.total (rounded solution.values) := by
  obtain ⟨kept, hkept, rfl⟩ := choose_eq_ok_iff.mp h
  obtain ⟨solution, hsolve, rfl⟩ := (keep_relaxation_eq_ok_iff hrelaxation).mp hkept
  exact ⟨solution, hsolve, rfl⟩

/-- No more than two pieces are kept, one for each row. -/
theorem pieces_le_two (hthreshold : Arithmetic.lt (threshold : α) Arithmetic.zero = false)
    (hrelaxation : s.strategy = .relaxation) (h : s.choose.result = .ok choice) :
    choice.pieces ≤ 2 := by
  obtain ⟨solution, hsolve, rfl⟩ := choose_relaxation_eq_ok hrelaxation h
  calc (s.total (rounded solution.values)).pieces
      ≤ (rounded solution.values).countP id := length_keptPieces_le_countP _ _
    _ = solution.values.countP fun share => Arithmetic.lt threshold share := by
        rw [rounded, List.countP_map]
        rfl
    _ ≤ 2 := Solver.countP_values_le hsolve hthreshold

theorem not_threshold_lt_zero_float :
    Arithmetic.lt (threshold : Float) Arithmetic.zero = false := rfl

theorem not_threshold_lt_zero_rat : Arithmetic.lt (threshold : ℚ) Arithmetic.zero = false := by
  rw [threshold_eq, Arithmetic.rat_lt]
  norm_num

end Selector

/-! ### What rounding gains -/

section Rational

variable {measure : Piece ℚ → ℚ} {pieces : List (Piece ℚ)} {shares : List ℚ}

theorem rounded_cons (share : ℚ) (shares : List ℚ) :
    rounded (share :: shares) = decide (1 / 2 < share) :: rounded shares := by
  have hkeep : decide (1 / 2 < share) = Arithmetic.lt threshold share := by
    rw [threshold_eq, Arithmetic.rat_lt]
  rw [hkeep]
  rfl

theorem shareSum_nonneg (hmeasure : ∀ piece ∈ pieces, 0 ≤ measure piece)
    (hshares : ∀ share ∈ shares, 0 ≤ share) : 0 ≤ shareSum measure pieces shares := by
  induction pieces generalizing shares with
  | nil => simp
  | cons piece pieces ih =>
      cases shares with
      | nil => simp
      | cons share shares =>
          obtain ⟨hpiece, hpieces⟩ := List.forall_mem_cons.mp hmeasure
          obtain ⟨hshare, hothers⟩ := List.forall_mem_cons.mp hshares
          rw [shareSum_cons]
          exact add_nonneg (mul_nonneg hpiece hshare) (ih hpieces hothers)

/-- What the kept pieces measure is nothing, or less than twice what the shares measure. -/
theorem keptSum_rounded_eq_zero_or_lt (hmeasure : ∀ piece ∈ pieces, 0 ≤ measure piece)
    (hshares : ∀ share ∈ shares, 0 ≤ share) :
    keptSum measure pieces (rounded shares) = 0 ∨
      keptSum measure pieces (rounded shares) < 2 * shareSum measure pieces shares := by
  induction pieces generalizing shares with
  | nil => simp
  | cons piece pieces ih =>
      cases shares with
      | nil => simp [rounded]
      | cons share shares =>
          obtain ⟨hpiece, hpieces⟩ := List.forall_mem_cons.mp hmeasure
          obtain ⟨hshare, hothers⟩ := List.forall_mem_cons.mp hshares
          have hterm : 0 ≤ measure piece * share := mul_nonneg hpiece hshare
          have hnonneg : 0 ≤ shareSum measure pieces shares := shareSum_nonneg hpieces hothers
          have hsum := ih hpieces hothers
          rw [rounded_cons, shareSum_cons]
          by_cases hkeep : 1 / 2 < share
          · rw [decide_eq_true hkeep, keptSum_cons_true]
            rcases hpiece.eq_or_lt with hzero | hpos
            · simpa [← hzero] using hsum
            · -- the piece alone gains less than what its share measures twice
              right
              have hgain : measure piece * 1 < measure piece * (2 * share) :=
                mul_lt_mul_of_pos_left (by linarith) hpos
              rcases hsum with hsum | hsum
              · linarith
              · linarith
          · rw [decide_eq_false hkeep, keptSum_cons_false]
            rcases hsum with hsum | hsum
            · exact Or.inl hsum
            · right
              linarith

theorem keptSum_rounded_le (hmeasure : ∀ piece ∈ pieces, 0 ≤ measure piece)
    (hshares : ∀ share ∈ shares, 0 ≤ share) :
    keptSum measure pieces (rounded shares) ≤ 2 * shareSum measure pieces shares := by
  rcases keptSum_rounded_eq_zero_or_lt hmeasure hshares with hsum | hsum
  · rw [hsum]
    exact mul_nonneg zero_le_two (shareSum_nonneg hmeasure hshares)
  · exact hsum.le

end Rational

/-! ### The budgets -/

section Budgets

variable {s : Selector ℚ} {shares : List ℚ}

/-- Of two pieces that are kept, both are allowed. -/
theorem length_rounded_le (hfeas : s.relaxation.IsFeasible shares)
    (htwo : (keptPieces s.pieces (rounded shares)).length ≤ 2) :
    (keptPieces s.pieces (rounded shares)).length ≤ s.budget.maxPieces := by
  obtain ⟨-, hshares, -, hcount⟩ := isFeasible_relaxation_iff.mp hfeas
  have hone : ∀ piece ∈ s.pieces, (0 : ℚ) ≤ 1 := fun _ _ => zero_le_one
  have hsum := keptSum_rounded_eq_zero_or_lt hone hshares
  rw [keptSum_one] at hsum
  rcases hsum with hnone | hlt
  · have hzero : (keptPieces s.pieces (rounded shares)).length = 0 := by exact_mod_cast hnone
    omega
  · have htwice : ((keptPieces s.pieces (rounded shares)).length : ℚ)
        < 2 * s.budget.maxPieces := by linarith
    have hlt' : (keptPieces s.pieces (rounded shares)).length < 2 * s.budget.maxPieces := by
      exact_mod_cast htwice
    omega

theorem weight_rounded_le (hfeas : s.relaxation.IsFeasible shares)
    (hweights : ∀ piece ∈ s.pieces, 0 ≤ piece.weight) :
    keptSum Piece.weight s.pieces (rounded shares) ≤ 2 * s.budget.maxWeight := by
  obtain ⟨-, hshares, hweight, -⟩ := isFeasible_relaxation_iff.mp hfeas
  have hsum := keptSum_rounded_le hweights hshares
  linarith

end Budgets

namespace Selector

/-- A weight of no more than twice the budget is charged for no more than the budget. -/
theorem excessCharge_total_le {s : Selector ℚ} {kept : List Bool} (hbudget : 0 ≤ s.budget.maxWeight)
    (hweight : keptSum Piece.weight s.pieces kept ≤ 2 * s.budget.maxWeight)
    (hrate : 0 ≤ s.excessRate) :
    0 ≤ (s.total kept).excessCharge ∧
      (s.total kept).excessCharge ≤ s.excessRate * s.budget.maxWeight := by
  have hexcess : max (keptSum Piece.weight s.pieces kept - s.budget.maxWeight) 0
      ≤ s.budget.maxWeight := max_le (by linarith) hbudget
  rw [excessCharge_total, mul_comm]
  exact ⟨mul_nonneg hrate (le_max_right _ _), mul_le_mul_of_nonneg_left hexcess hrate⟩

/-- **How far a rounded relaxation keeps to the budgets.** No solution has more values other than
zero than its problem has rows, so no more than two pieces are kept: in every arithmetic whose
threshold is not below zero, such as that of floating-point numbers. Over the rational numbers and
with a tolerance of zero no more pieces are kept than allowed, they weigh no more than twice the
budget, and the charge is limited accordingly. -/
theorem choose_relaxation_within :
    (∀ {α : Type} [Arithmetic α] {solver : Solver α} {p : Problem α} {solution : Solution α},
      (solver.solve p).result = .ok solution →
        ∀ test : α → Bool, test Arithmetic.zero = false →
          solution.values.countP test ≤ p.rows.length) ∧
    (∀ {α : Type} [Arithmetic α] {s : Selector α} {choice : Choice α},
      Arithmetic.lt (threshold : α) Arithmetic.zero = false → s.strategy = .relaxation →
        s.choose.result = .ok choice → choice.pieces ≤ 2) ∧
    Arithmetic.lt (threshold : Float) Arithmetic.zero = false ∧
    Arithmetic.lt (threshold : ℚ) Arithmetic.zero = false ∧
    (∀ {weights values : List ℚ} {budget : Budget ℚ} {s : Selector ℚ} {choice : Choice ℚ},
      create weights values budget = .ok s → ∀ (rate : ℚ) (solver : Solver ℚ),
        solver.tolerance = 0 →
        ({ s with strategy := .relaxation, excessRate := rate, solver := solver } :
          Selector ℚ).choose.result = .ok choice →
        choice.pieces ≤ budget.maxPieces ∧ choice.weight ≤ 2 * budget.maxWeight ∧
          (0 ≤ rate →
            0 ≤ choice.excessCharge ∧ choice.excessCharge ≤ rate * budget.maxWeight)) := by
  refine ⟨fun h test hzero => Solver.countP_values_le h hzero, pieces_le_two,
    not_threshold_lt_zero_float, not_threshold_lt_zero_rat, ?_⟩
  intro weights values budget s choice hcreate rate solver htol hchoose
  have htwo := pieces_le_two not_threshold_lt_zero_rat rfl hchoose
  obtain ⟨-, rfl, hbudget⟩ := create_eq_ok hcreate
  obtain ⟨solution, hsolve, rfl⟩ := choose_relaxation_eq_ok rfl hchoose
  have hfeas := isFeasible_of_solve_relaxation hbudget htol hsolve
  have hweight := weight_rounded_le hfeas fun piece hpiece => (weight_of_create hcreate hpiece).2
  rw [weight_total]
  refine ⟨length_rounded_le hfeas htwo, hweight, fun hrate => ?_⟩
  exact excessCharge_total_le hbudget hweight hrate

/-- A selector of floating-point numbers for three pieces, all of which are allowed by their
number. -/
def roomy : Selector Float :=
  { pieces := [⟨2, 1⟩, ⟨10, 4⟩, ⟨20, 4⟩]
    budget := ⟨40, 5, 0⟩
    strategy := .relaxation
    excessRate := standardExcessRate
    solver := .standard }

theorem choose_roomy : ∃ choice, roomy.choose.result = .ok choice ∧
    choice.kept = [true, true, false] := by
  have hkept : roomy.choose.result.toOption.map Choice.kept = some [true, true, false] := by
    decide +kernel
  cases hchoose : roomy.choose.result with
  | error e =>
      rw [hchoose] at hkept
      cases hkept
  | ok choice =>
      rw [hchoose] at hkept
      exact ⟨choice, rfl, Option.some.inj hkept⟩

theorem choose_relaxation_uneven_within :
    (∃ choice, roomy.choose.result = .ok choice ∧ choice.kept = [true, true, false] ∧
      choice.pieces ≤ 2) ∧
    ∃ choice, create [2 / 100, 10 / 100] [1, 4] ⟨11 / 100, 2, 0⟩ = .ok uneven ∧
      ({ uneven with excessRate := 30, solver := ⟨none, 0, false⟩ } : Selector ℚ).choose.result
        = .ok choice ∧
      choice.kept = [true, true] ∧ 11 / 100 < choice.weight ∧ choice.weight ≤ 2 * (11 / 100) ∧
      choice.excessCharge ≤ 30 * (11 / 100) := by
  obtain ⟨-, hpieces, hfloat, -, hbudgets⟩ := choose_relaxation_within
  have hrounded : rounded [(9 / 8 : ℚ), 7 / 8] = [true, true] := by decide +kernel
  have hchoose := choose_relaxation_of_eq_ok
    (s := { uneven with excessRate := 30, solver := ⟨none, 0, false⟩ }) rfl solve_uneven
  obtain ⟨choice, hroomy, hkept⟩ := choose_roomy
  obtain ⟨-, hweight, hcharge⟩ := hbudgets create_uneven 30 ⟨none, 0, false⟩ rfl hchoose
  exact ⟨⟨choice, hroomy, hkept, hpieces hfloat rfl hroomy⟩,
    _, create_uneven, hchoose, hrounded, by decide +kernel, hweight, (hcharge (by norm_num)).2⟩

end Selector

end Baggage.Selection

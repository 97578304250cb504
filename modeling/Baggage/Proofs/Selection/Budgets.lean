import Baggage.Proofs.Selection.Knapsack

/-!
# Baggage.Proofs.Selection.Budgets

**How far the exact strategy keeps to the budgets.** It never keeps more pieces than allowed. Their
weight, taken in kilograms, can exceed the budget by a hundred-millionth of a kilogram for each of
them and one more, because rounding to steps is relaxed by that much; a piece that is that little
too heavy for the budget is kept and billed (`choose_exact_overweight`). Where rounding loses
nothing, the weight keeps to the budget as well and nothing is charged.
-/

namespace Baggage

theorem Arithmetic.rat_positivePart (x : ℚ) : positivePart x = max x 0 := by
  unfold positivePart
  rw [rat_lt, rat_zero]
  rcases lt_or_ge 0 x with h | h
  · simp [h, h.le]
  · simp [not_lt.mpr h, h]

namespace Selection.Selector

/-! ### Checked selectors -/

theorem isAmount_iff (x : ℚ) : isAmount x = true ↔ 0 ≤ x := by simp [isAmount]

/-- **What makes pieces and a budget acceptable**: as many values as weights, and no negative weight
among the pieces and in the budget. Every rational number is finite. -/
theorem fault?_eq_none_iff {weights values : List ℚ} {budget : Budget ℚ} :
    fault? weights values budget = none ↔ weights.length = values.length ∧
      (∀ weight ∈ weights, 0 ≤ weight) ∧ 0 ≤ budget.maxWeight := by
  have hvalues : values.findIdx? (fun v => !Arithmetic.isFinite v) = none := by simp
  have hweights : weights.findIdx? (fun w => !isAmount w) = none
      ↔ ∀ weight ∈ weights, 0 ≤ weight := by simp [isAmount_iff]
  unfold fault?
  rw [hvalues]
  by_cases hlength : weights.length = values.length
  · cases hfound : weights.findIdx? fun w => !isAmount w with
    | some index => simp [hlength, ← hweights, hfound]
    | none => simp [hlength, ← hweights, hfound, isAmount_iff]
  · simp [hlength]

theorem create_inv {α : Type} [Arithmetic α] {weights values : List α} {budget : Budget α}
    {s : Selector α} (h : create weights values budget = .ok s) :
    fault? weights values budget = none ∧
      s = ⟨List.zipWith Piece.mk weights values, budget, .relaxation, standardExcessRate,
        .standard⟩ := by
  unfold create at h
  split at h
  · cases h
  · next hfault => exact ⟨hfault, (Except.ok.inj h).symm⟩

/-- A selector has the budget that it was made for, and that budget allows a weight. -/
theorem create_eq_ok {weights values : List ℚ} {budget : Budget ℚ} {s : Selector ℚ}
    (h : create weights values budget = .ok s) :
    s.pieces = List.zipWith Piece.mk weights values ∧ s.budget = budget ∧
      0 ≤ budget.maxWeight := by
  obtain ⟨hfault, rfl⟩ := create_inv h
  exact ⟨rfl, rfl, (fault?_eq_none_iff.mp hfault).2.2⟩

/-- The pieces of a selector weigh what it was made for, which is never negative. -/
theorem weight_of_create {weights values : List ℚ} {budget : Budget ℚ} {s : Selector ℚ}
    (h : create weights values budget = .ok s) {piece : Piece ℚ} (hpiece : piece ∈ s.pieces) :
    piece.weight ∈ weights ∧ 0 ≤ piece.weight := by
  obtain ⟨hfault, rfl⟩ := create_inv h
  rw [← List.map_uncurry_zip_eq_zipWith] at hpiece
  obtain ⟨⟨weight, value⟩, hmem, rfl⟩ := List.mem_map.mp hpiece
  have hweight : weight ∈ weights := (List.of_mem_zip hmem).1
  exact ⟨hweight, (fault?_eq_none_iff.mp hfault).2.1 weight hweight⟩

/-! ### Totals -/

section Total

variable (s : Selector ℚ) (kept : List Bool)

theorem weight_total : (s.total kept).weight = keptSum Piece.weight s.pieces kept :=
  Arithmetic.rat_sum _

theorem value_total : (s.total kept).value = keptSum Piece.value s.pieces kept :=
  Arithmetic.rat_sum _

theorem pieces_total : (s.total kept).pieces = (keptPieces s.pieces kept).length := rfl

theorem excessCharge_total : (s.total kept).excessCharge
    = max (keptSum Piece.weight s.pieces kept - s.budget.maxWeight) 0 * s.excessRate := by
  rw [← weight_total, ← Arithmetic.rat_positivePart]
  rfl

end Total

/-! ### The choice that is made -/

section Choose

variable {α : Type} [Arithmetic α] {s : Selector α} {choice : Choice α} {kept : List Bool}

/-- A choice is reported with the totals of what the strategy keeps. -/
theorem choose_eq_ok_iff :
    s.choose.result = .ok choice ↔ ∃ kept, s.keep.result = .ok kept ∧ choice = s.total kept := by
  unfold choose
  rw [Logged.result_andThen]
  cases s.keep.result with
  | error e =>
      constructor
      · intro h
        cases h
      · rintro ⟨kept, hkept, -⟩
        cases hkept
  | ok kept =>
      constructor
      · intro h
        exact ⟨kept, rfl, (Except.ok.inj h).symm⟩
      · rintro ⟨kept', hkept, rfl⟩
        obtain rfl := Except.ok.inj hkept
        rfl

/-- No choice is reported exactly where the strategy fails. -/
theorem choose_eq_error_iff {e : SelectionError α} :
    s.choose.result = .error e ↔ s.keep.result = .error e := by
  unfold choose
  rw [Logged.result_andThen]
  cases s.keep.result with
  | error e' =>
      constructor
      · intro h
        rw [Except.error.inj h]
      · intro h
        rw [Except.error.inj h]
        rfl
  | ok kept => exact iff_of_false nofun nofun

theorem keep_exact_eq_error_iff (hexact : s.strategy = .exact) {e : SelectionError α} :
    s.keep.result = .error e ↔ e = .refused (.tooLarge s.pieces.length s.budget.maxWeight) ∧
      knapsack? s.pieces s.budget.maxWeight s.budget.maxPieces = none := by
  unfold keep
  rw [hexact]
  dsimp only
  cases knapsack? s.pieces s.budget.maxWeight s.budget.maxPieces with
  | some kept => simp
  | none => simp [eq_comm]

theorem keep_exact_eq_ok_iff (hexact : s.strategy = .exact) :
    s.keep.result = .ok kept ↔
      knapsack? s.pieces s.budget.maxWeight s.budget.maxPieces = some kept := by
  unfold keep
  rw [hexact]
  dsimp only
  cases knapsack? s.pieces s.budget.maxWeight s.budget.maxPieces with
  | some kept' => simp
  | none => simp

theorem choose_exact_of_eq_some (hexact : s.strategy = .exact)
    (h : knapsack? s.pieces s.budget.maxWeight s.budget.maxPieces = some kept) :
    s.choose.result = .ok (s.total kept) :=
  choose_eq_ok_iff.mpr ⟨kept, (keep_exact_eq_ok_iff hexact).mpr h, rfl⟩

theorem choose_exact_eq_ok (hexact : s.strategy = .exact) (h : s.choose.result = .ok choice) :
    ∃ kept, knapsack? s.pieces s.budget.maxWeight s.budget.maxPieces = some kept ∧
      choice = s.total kept := by
  obtain ⟨kept, hkept, htotal⟩ := choose_eq_ok_iff.mp h
  exact ⟨kept, (keep_exact_eq_ok_iff hexact).mp hkept, htotal⟩

end Choose

/-! ### The exact strategy -/

/-- **The exact strategy keeps to the number of pieces, and to the weight up to the slack of its
rounding.** The excess that is charged is limited in the same way. Where no kept piece weighs more
than its steps, and the steps of the budget are no more than its weight, the weight keeps to the
budget exactly and nothing is charged. -/
theorem choose_exact_within {weights values : List ℚ} {budget : Budget ℚ} {s : Selector ℚ}
    (hcreate : create weights values budget = .ok s) (rate : ℚ)
    (solver : LinearProgram.Solver ℚ) {choice : Choice ℚ}
    (h : ({ s with strategy := .exact, excessRate := rate, solver := solver } :
      Selector ℚ).choose.result = .ok choice) :
    choice.pieces ≤ budget.maxPieces ∧
      choice.weight ≤ budget.maxWeight + (choice.pieces + 1) / 10 ^ 8 ∧
      |choice.excessCharge| ≤ (choice.pieces + 1) / 10 ^ 8 * |rate| ∧
      ((∀ piece ∈ keptPieces s.pieces choice.kept, 100 * piece.weight ≤ stepCount piece) →
        (stepBudget budget.maxWeight : ℚ) ≤ 100 * budget.maxWeight →
          choice.weight ≤ budget.maxWeight ∧ choice.excessCharge = 0) := by
  obtain ⟨-, rfl, hbudget⟩ := create_eq_ok hcreate
  obtain ⟨kept, hkept, rfl⟩ := choose_exact_eq_ok rfl h
  have hfits := (knapsack?_isBest_stepCount hkept).fits
  have hweight := hfits.weight_le hbudget
  rw [weight_total, pieces_total, excessCharge_total]
  refine ⟨hfits.count_le, hweight, ?_, fun hpieces hsteps => ?_⟩
  · -- the rate may be negative, so the charge is limited in size only
    rw [abs_mul, abs_of_nonneg (le_max_right _ _)]
    refine mul_le_mul_of_nonneg_right (max_le ?_ (by positivity)) (abs_nonneg _)
    exact sub_le_iff_le_add'.mpr hweight
  · have hle := hfits.weight_le_of_exact hpieces hsteps
    refine ⟨hle, ?_⟩
    rw [max_eq_right (sub_nonpos.mpr hle), zero_mul]

/-- A selector for pieces of which two fit together, to the hundredth. -/
def fitting : Selector ℚ :=
  { pieces := [⟨2 / 100, 3⟩, ⟨3 / 100, 5⟩, ⟨1 / 100, 2⟩]
    budget := ⟨4 / 100, 2, 10⟩
    strategy := .relaxation
    excessRate := standardExcessRate
    solver := .standard }

theorem choose_exact_fitting_within : ∃ choice,
    create [2 / 100, 3 / 100, 1 / 100] [3, 5, 2] ⟨4 / 100, 2, 10⟩ = .ok fitting ∧
      ({ fitting with strategy := .exact, excessRate := 1500 } : Selector ℚ).choose.result
        = .ok choice ∧
      choice.kept = [false, true, true] ∧ choice.pieces ≤ 2 ∧ choice.weight ≤ 4 / 100 ∧
      choice.excessCharge = 0 := by
  have hcreate : create [2 / 100, 3 / 100, 1 / 100] [3, 5, 2] ⟨4 / 100, 2, 10⟩ = .ok fitting := by
    norm_num [create, fault?, isAmount, List.findIdx?_cons, fitting]
  have hkept : knapsack? fitting.pieces (4 / 100) 2 = some [false, true, true] := by
    decide +kernel
  have hchoice : ({ fitting with strategy := .exact, excessRate := 1500 } :
      Selector ℚ).choose.result = .ok
        (({ fitting with strategy := .exact, excessRate := 1500 } : Selector ℚ).total
          [false, true, true]) :=
    choose_exact_of_eq_some rfl hkept
  obtain ⟨hpieces, -, -, hexact⟩ := choose_exact_within hcreate 1500 .standard hchoice
  have hsteps : ∀ piece ∈ keptPieces fitting.pieces [false, true, true],
      100 * piece.weight ≤ stepCount piece := by decide +kernel
  have hbudget : (stepBudget (4 / 100) : ℚ) ≤ 100 * (4 / 100) := by decide +kernel
  obtain ⟨hweight, hcharge⟩ := hexact hsteps hbudget
  exact ⟨_, hcreate, hchoice, rfl, hpieces, hweight, hcharge⟩

/-- A selector for one piece that is five millionths of a gram too heavy. -/
def overweight : Selector ℚ :=
  { pieces := [⟨20000001 / 200000000, 1⟩]
    budget := ⟨1 / 10, 1, 0⟩
    strategy := .relaxation
    excessRate := standardExcessRate
    solver := .standard }

/-- **Rounding lets a piece pass that is too heavy** for the budget, and its excess is charged. -/
theorem choose_exact_overweight : ∃ choice,
    create [20000001 / 200000000] [1] ⟨1 / 10, 1, 0⟩ = .ok overweight ∧
      ({ overweight with strategy := .exact } : Selector ℚ).choose.result = .ok choice ∧
      overweight.budget.maxWeight < choice.weight ∧ 0 < choice.excessCharge := by
  have hcreate : create [20000001 / 200000000] [1] ⟨1 / 10, 1, 0⟩ = .ok overweight := by
    norm_num [create, fault?, isAmount, List.findIdx?_cons, overweight]
  have hkept : knapsack? overweight.pieces (1 / 10) 1 = some [true] := by decide +kernel
  have hchoice : ({ overweight with strategy := .exact } : Selector ℚ).choose.result
      = .ok (({ overweight with strategy := .exact } : Selector ℚ).total [true]) :=
    choose_exact_of_eq_some rfl hkept
  exact ⟨_, hcreate, hchoice, by decide +kernel, by decide +kernel⟩

end Selection.Selector

end Baggage

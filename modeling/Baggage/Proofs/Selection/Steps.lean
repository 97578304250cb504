import Baggage.Proofs.Selection.Best

/-!
# Baggage.Proofs.Selection.Steps

**Weights in steps.** The steps of a piece and of a weight budget are rounded in opposite
directions, but each of them by a slack of a millionth of a step too little. `stepCount` and
`stepBudget` say this without the limits of a machine word, which no budget of a table reaches
(`fits_stepsOf_iff`).

What fits in steps can therefore exceed the budget in kilograms by one slack for each kept piece and
one for the budget (`Fits.weight_le`). It cannot where rounding loses nothing
(`Fits.weight_le_of_exact`), and for whole hundredths of a kilogram fitting in steps and fitting in
kilograms are the same (`fits_stepCount_iff`).
-/

namespace Baggage

/-! ### Rounding to a count -/

theorem Exact.floor_rational (q : ℚ) : (rational q).floor = min ⌊q⌋₊ largestCount := by
  rw [← Int.floor_toNat]
  rfl

theorem Exact.ceil_rational (q : ℚ) : (rational q).ceil = min ⌈q⌉₊ largestCount := by
  have hceil : q.ceil = ⌈q⌉ := by
    rw [Rat.ceil_eq_neg_floor_neg]
    rfl
  rw [← Int.ceil_toNat, ← hceil]
  rfl

namespace Selection

open Selector (keptPieces)

/-! ### Steps without limits -/

/-- The steps that a piece takes up: its weight in hundredths of a kilogram, less the slack, rounded
up. -/
def stepCount (piece : Piece ℚ) : ℕ := ⌈100 * piece.weight - 1 / 10 ^ 6⌉₊

/-- The steps that a weight budget offers: its hundredths of a kilogram and the slack, rounded
down. -/
def stepBudget (maxWeight : ℚ) : ℕ := ⌊100 * maxWeight + 1 / 10 ^ 6⌋₊

theorem stepSlack_eq : (stepSlack : ℚ) = 1 / 10 ^ 6 := by decide +kernel

theorem stepsPerKilogram_eq : (stepsPerKilogram : ℚ) = 100 := by decide +kernel

theorem stepsOf_weight (piece : Piece ℚ) :
    stepsOf piece.weight = min (stepCount piece) Exact.largestCount := by
  have hexact : stepsOf piece.weight
      = (Exact.rational (piece.weight * stepsPerKilogram - stepSlack)).ceil := rfl
  rw [hexact, Exact.ceil_rational, stepsPerKilogram_eq, stepSlack_eq, mul_comm]
  rfl

theorem stepsWithin_eq (maxWeight : ℚ) :
    stepsWithin maxWeight = min (stepBudget maxWeight) Exact.largestCount := by
  have hexact : stepsWithin maxWeight
      = (Exact.rational (maxWeight * stepsPerKilogram + stepSlack)).floor := rfl
  rw [hexact, Exact.floor_rational, stepsPerKilogram_eq, stepSlack_eq, mul_comm]
  rfl

/-- No kept piece takes up more steps than all of them together. -/
theorem le_keptSum (size : Piece ℚ → ℕ) {pieces : List (Piece ℚ)} {kept : List Bool}
    {piece : Piece ℚ} (h : piece ∈ keptPieces pieces kept) :
    size piece ≤ keptSum size pieces kept := List.le_sum_of_mem (List.mem_map_of_mem h)

/-- Below the largest count the limits of a word change nothing. -/
theorem fits_stepsOf_iff {pieces : List (Piece ℚ)} {maxPieces limit : ℕ} {kept : List Bool}
    (hlimit : limit < Exact.largestCount) :
    Fits (fun piece => stepsOf piece.weight) pieces maxPieces limit kept
      ↔ Fits stepCount pieces maxPieces limit kept := by
  -- in either reading every kept piece stays below the limit, so the two readings agree on it
  have hsum : (∀ piece ∈ keptPieces pieces kept, stepsOf piece.weight = stepCount piece) →
      keptSum (fun piece => stepsOf piece.weight) pieces kept = keptSum stepCount pieces kept := by
    intro h
    unfold keptSum
    rw [List.map_congr_left h]
  constructor
  · rintro ⟨hlength, hcount, hsize⟩
    have heq := hsum fun piece hpiece => by
      have hle := le_keptSum (fun piece => stepsOf piece.weight) hpiece
      have hmin := stepsOf_weight piece
      omega
    exact ⟨hlength, hcount, heq ▸ hsize⟩
  · rintro ⟨hlength, hcount, hsize⟩
    have heq := hsum fun piece hpiece => by
      have hle := le_keptSum stepCount hpiece
      have hmin := stepsOf_weight piece
      omega
    exact ⟨hlength, hcount, heq.symm ▸ hsize⟩

/-! ### What rounding loses -/

theorem weight_le_stepCount (piece : Piece ℚ) :
    100 * piece.weight ≤ stepCount piece + 1 / 10 ^ 6 := by
  have hceil : 100 * piece.weight - 1 / 10 ^ 6 ≤ stepCount piece := Nat.le_ceil _
  linarith

theorem stepBudget_le {maxWeight : ℚ} (h : 0 ≤ maxWeight) :
    (stepBudget maxWeight : ℚ) ≤ 100 * maxWeight + 1 / 10 ^ 6 := Nat.floor_le (by positivity)

/-- If every kept piece weighs more than its steps by a slack at most, all of them do by as many
slacks. -/
theorem keptSum_weight_le {pieces : List (Piece ℚ)} {kept : List Bool} (slack : ℚ)
    (h : ∀ piece ∈ keptPieces pieces kept, 100 * piece.weight ≤ stepCount piece + slack) :
    100 * keptSum Piece.weight pieces kept
      ≤ (keptSum stepCount pieces kept : ℕ) + (keptPieces pieces kept).length * slack := by
  unfold keptSum
  generalize keptPieces pieces kept = chosen at h
  induction chosen with
  | nil => simp
  | cons piece rest ih =>
      have hpiece := h piece List.mem_cons_self
      have hrest := ih fun other hother => h other (List.mem_cons_of_mem _ hother)
      simp only [List.map_cons, List.sum_cons, List.length_cons, Nat.cast_add, Nat.cast_one]
      linarith

/-- **What fits in steps** exceeds a weight budget by one slack for each kept piece and one for the
budget at most. -/
theorem Fits.weight_le {pieces : List (Piece ℚ)} {maxPieces : ℕ} {maxWeight : ℚ}
    {kept : List Bool} (h : Fits stepCount pieces maxPieces (stepBudget maxWeight) kept)
    (hbudget : 0 ≤ maxWeight) :
    keptSum Piece.weight pieces kept
      ≤ maxWeight + ((keptPieces pieces kept).length + 1) / 10 ^ 8 := by
  have hweight := keptSum_weight_le (1 / 10 ^ 6)
    fun piece (_ : piece ∈ keptPieces pieces kept) => weight_le_stepCount piece
  have hsteps : ((keptSum stepCount pieces kept : ℕ) : ℚ) ≤ stepBudget maxWeight := by
    exact_mod_cast h.size_le
  have hfloor := stepBudget_le hbudget
  linarith

/-- Where rounding loses nothing, what fits in steps fits in kilograms. -/
theorem Fits.weight_le_of_exact {pieces : List (Piece ℚ)} {maxPieces : ℕ} {maxWeight : ℚ}
    {kept : List Bool} (h : Fits stepCount pieces maxPieces (stepBudget maxWeight) kept)
    (hpieces : ∀ piece ∈ keptPieces pieces kept, 100 * piece.weight ≤ stepCount piece)
    (hbudget : (stepBudget maxWeight : ℚ) ≤ 100 * maxWeight) :
    keptSum Piece.weight pieces kept ≤ maxWeight := by
  have hweight := keptSum_weight_le 0 fun piece hpiece => by
    simpa using hpieces piece hpiece
  have hsteps : ((keptSum stepCount pieces kept : ℕ) : ℚ) ≤ stepBudget maxWeight := by
    exact_mod_cast h.size_le
  linarith

/-! ### Whole hundredths -/

/-- A weight that is a whole number of hundredths of a kilogram. -/
def IsHundredths (weight : ℚ) : Prop := ∃ n : ℕ, 100 * weight = n

theorem IsHundredths.stepCount_eq {piece : Piece ℚ} (h : IsHundredths piece.weight) :
    (stepCount piece : ℚ) = 100 * piece.weight := by
  obtain ⟨n, hn⟩ := h
  have hle : stepCount piece ≤ n := Nat.ceil_le.mpr (by rw [hn]; linarith)
  have hlt : (n : ℚ) < stepCount piece + 1 := by
    have hceil := weight_le_stepCount piece
    linarith
  have hge : n < stepCount piece + 1 := by exact_mod_cast hlt
  rw [hn, le_antisymm hle (Nat.le_of_lt_succ hge)]

theorem IsHundredths.stepBudget_eq {maxWeight : ℚ} (h : IsHundredths maxWeight) :
    (stepBudget maxWeight : ℚ) = 100 * maxWeight := by
  obtain ⟨n, hn⟩ := h
  have hfloor : stepBudget maxWeight = n := by
    rw [stepBudget, hn, Nat.floor_eq_iff (by positivity)]
    constructor <;> linarith
  rw [hfloor, hn]

/-- **For whole hundredths of a kilogram** fitting in steps and fitting in kilograms are the
same. -/
theorem fits_stepCount_iff {pieces : List (Piece ℚ)} {maxPieces : ℕ} {maxWeight : ℚ}
    {kept : List Bool} (hpieces : ∀ piece ∈ pieces, IsHundredths piece.weight)
    (hbudget : IsHundredths maxWeight) :
    Fits Piece.weight pieces maxPieces maxWeight kept
      ↔ Fits stepCount pieces maxPieces (stepBudget maxWeight) kept := by
  have hsum : ((keptSum stepCount pieces kept : ℕ) : ℚ)
      = 100 * keptSum Piece.weight pieces kept := by
    calc ((keptSum stepCount pieces kept : ℕ) : ℚ)
        = keptSum (fun piece => (stepCount piece : ℚ)) pieces kept := by
          simp [keptSum, Nat.cast_list_sum, Function.comp_def]
      _ = keptSum (fun piece => 100 * piece.weight) pieces kept :=
          keptSum_congr (fun piece hpiece => (hpieces piece hpiece).stepCount_eq) kept
      _ = 100 * keptSum Piece.weight pieces kept := by
          simp [keptSum, List.sum_map_mul_left]
  have hiff : keptSum stepCount pieces kept ≤ stepBudget maxWeight
      ↔ keptSum Piece.weight pieces kept ≤ maxWeight := by
    rw [← Nat.cast_le (α := ℚ), hsum, hbudget.stepBudget_eq]
    exact mul_le_mul_iff_right₀ (by norm_num)
  constructor
  · rintro ⟨hlength, hcount, hsize⟩
    exact ⟨hlength, hcount, hiff.mpr hsize⟩
  · rintro ⟨hlength, hcount, hsize⟩
    exact ⟨hlength, hcount, hiff.mp hsize⟩

end Selection

end Baggage

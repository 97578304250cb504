import Baggage.Proofs.Selection.Grid
import Baggage.Proofs.Selection.Steps

/-!
# Baggage.Proofs.Selection.Knapsack

**The exact choice is a best choice.** After some pieces have been added, `Filled` relates the table
to them: from every cell the marks lead back to a best choice among these pieces within the budgets
of the cell, and the cell holds what that choice is worth. A piece that is added keeps this
(`Filled.add`), because each cell compares leaving the piece with taking it, and so does one that is
passed over (`Filled.skip`), because no best choice needs it. Hence it holds of the whole table.

`knapsack?_isBest` reads it at the last cell, in steps and, for whole hundredths of a kilogram, in
kilograms.
-/

namespace Baggage.Selection

namespace Grid

variable {g : Grid}

/-! ### Following the marks -/

/-- The pieces found further on stand in front of those found before. -/
theorem recover_append (filled : List (ℕ × Option (Vector Bool g.layer))) (pieces steps : ℕ)
    (kept : List Bool) :
    g.recover pieces steps kept filled = g.recover pieces steps [] filled ++ kept := by
  induction filled generalizing pieces steps kept with
  | nil => rfl
  | cons entry rest ih =>
      obtain ⟨taken, marks⟩ := entry
      unfold recover
      split
      · rw [ih _ _ (true :: kept), ih _ _ [true], List.append_assoc]
        rfl
      · rw [ih _ _ (false :: kept), ih _ _ [false], List.append_assoc]
        rfl

theorem recover_of_marked {pieces steps taken : ℕ} {marks : Vector Bool g.layer}
    (hpieces : 0 < pieces) (h : g.marked marks pieces steps = true)
    (filled : List (ℕ × Option (Vector Bool g.layer))) :
    g.recover pieces steps [] ((taken, some marks) :: filled)
      = g.recover (pieces - 1) (steps - taken) [] filled ++ [true] := by
  have hmark : marks[g.cell pieces steps]?.getD false = true := h
  rw [recover, if_pos (by simp [hpieces, hmark]), recover_append]

theorem recover_of_not_marked {pieces steps taken : ℕ} {marks : Vector Bool g.layer}
    (h : ¬ g.marked marks pieces steps = true)
    (filled : List (ℕ × Option (Vector Bool g.layer))) :
    g.recover pieces steps [] ((taken, some marks) :: filled)
      = g.recover pieces steps [] filled ++ [false] := by
  have hmark : ¬ marks[g.cell pieces steps]?.getD false = true := h
  rw [recover, if_neg (by simp [hmark]), recover_append]

theorem recover_none (pieces steps taken : ℕ)
    (filled : List (ℕ × Option (Vector Bool g.layer))) :
    g.recover pieces steps [] ((taken, none) :: filled)
      = g.recover pieces steps [] filled ++ [false] := by
  rw [recover, if_neg (by simp), recover_append]

/-! ### The table after some pieces -/

/-- The steps that a piece takes up. -/
def size (piece : Piece ℚ) : ℕ := stepsOf piece.weight

/-- What the table says about the pieces that have been added to it. -/
structure Filled (g : Grid) (seen : List (Piece ℚ)) (best : Vector ℚ g.layer)
    (filled : List (ℕ × Option (Vector Bool g.layer))) : Prop where
  /-- From every cell the marks lead to a best choice within its budgets. -/
  isBest : ∀ pieces ≤ g.pieces, ∀ steps ≤ g.capacity,
    IsBest size seen pieces steps (g.recover pieces steps [] filled)
  /-- The cell holds what that choice is worth. -/
  held_eq : ∀ pieces ≤ g.pieces, ∀ steps ≤ g.capacity,
    g.held best pieces steps = keptSum Piece.value seen (g.recover pieces steps [] filled)

theorem filled_nil (g : Grid) : g.Filled [] (Vector.replicate g.layer 0) [] := by
  constructor
  · intro pieces _ steps _
    refine ⟨⟨rfl, Nat.zero_le _, Nat.zero_le _⟩, fun other hother => ?_⟩
    rw [List.eq_nil_of_length_eq_zero hother.length_eq]
    exact le_rfl
  · intro pieces hpieces steps hsteps
    rw [held_replicate hpieces hsteps]
    rfl

variable {seen : List (Piece ℚ)} {best : Vector ℚ g.layer}
  {filled : List (ℕ × Option (Vector Bool g.layer))} {piece : Piece ℚ}

/-- A piece that is worth nothing, or that no budget of the table has room for, can be left. -/
theorem Filled.skip (h : g.Filled seen best filled)
    (hpiece : g.considers (size piece) piece.value = false) :
    g.Filled (seen ++ [piece]) best ((size piece, none) :: filled) := by
  have huseless : size piece ≤ g.capacity → piece.value ≤ 0 := by
    intro hle
    simpa [considers, hle] using hpiece
  constructor
  · intro pieces hpieces steps hsteps
    rw [recover_none]
    refine (h.isBest pieces hpieces steps hsteps).append_false fun _ hsize taken htaken => ?_
    -- without the piece the others fit all the more
    have hfits : Fits size seen pieces steps taken :=
      ⟨htaken.length_eq, htaken.count_le.trans (Nat.sub_le _ _),
        htaken.size_le.trans (Nat.sub_le _ _)⟩
    have hvalue := (h.isBest pieces hpieces steps hsteps).value_le taken hfits
    have hnonpos := huseless (hsize.trans hsteps)
    linarith
  · intro pieces hpieces steps hsteps
    rw [recover_none, keptSum_append_false (h.isBest pieces hpieces steps hsteps).fits.length_eq]
    exact h.held_eq pieces hpieces steps hsteps

/-- **Adding a piece** compares in each cell a best choice without the piece with one that takes
it. -/
theorem Filled.add (h : g.Filled seen best filled) (piece : Piece ℚ) :
    g.Filled (seen ++ [piece]) (g.add (size piece) piece.value best).1
      ((size piece, some (g.add (size piece) piece.value best).2) :: filled) := by
  -- both fields follow in one case distinction, on whether the cell takes the piece
  have hcell : ∀ pieces ≤ g.pieces, ∀ steps ≤ g.capacity,
      IsBest size (seen ++ [piece]) pieces steps (g.recover pieces steps []
          ((size piece, some (g.add (size piece) piece.value best).2) :: filled)) ∧
        g.held (g.add (size piece) piece.value best).1 pieces steps
          = keptSum Piece.value (seen ++ [piece]) (g.recover pieces steps []
              ((size piece, some (g.add (size piece) piece.value best).2) :: filled)) := by
    intro pieces hpieces steps hsteps
    have hleft := h.isBest pieces hpieces steps hsteps
    have hheld := h.held_eq pieces hpieces steps hsteps
    have hpieces' : pieces - 1 ≤ g.pieces := (Nat.sub_le _ _).trans hpieces
    have hsteps' : steps - size piece ≤ g.capacity := (Nat.sub_le _ _).trans hsteps
    have htaken := h.isBest _ hpieces' _ hsteps'
    have hheld' := h.held_eq _ hpieces' _ hsteps'
    by_cases himproves : g.Improves (size piece) piece.value best pieces steps
    · obtain ⟨hpos, hroom, hlt⟩ := id himproves
      rw [recover_of_marked hpos ((marked_add hpieces hsteps).mpr himproves),
        (held_add hpieces hsteps).1 himproves, keptSum_append_true htaken.fits.length_eq, ← hheld']
      rw [hheld, hheld'] at hlt
      exact ⟨htaken.append_true hpos hroom hleft hlt, rfl⟩
    · rw [recover_of_not_marked fun hmark => himproves ((marked_add hpieces hsteps).mp hmark),
        (held_add hpieces hsteps).2 himproves, keptSum_append_false hleft.fits.length_eq, ← hheld]
      refine ⟨hleft.append_false fun hpos hroom taken hfits => ?_, rfl⟩
      have hvalue := htaken.value_le taken hfits
      have hle := not_lt.mp fun hlt => himproves ⟨hpos, hroom, hlt⟩
      rw [hheld, hheld'] at hle
      linarith
  exact ⟨fun pieces hpieces steps hsteps => (hcell pieces hpieces steps hsteps).1,
    fun pieces hpieces steps hsteps => (hcell pieces hpieces steps hsteps).2⟩

theorem Filled.fill (h : g.Filled seen best filled) (rest : List (Piece ℚ)) :
    ∃ last, g.Filled (seen ++ rest) last (g.fill best filled rest) := by
  induction rest generalizing seen best filled with
  | nil => exact ⟨best, by simpa [Grid.fill] using h⟩
  | cons piece rest ih =>
      rw [List.append_cons]
      unfold Grid.fill
      dsimp only
      split
      · exact ih (h.add piece)
      · next hskip => exact ih (h.skip (Bool.eq_false_iff.mpr hskip))

/-- **The choice of a table** is best within its budgets. -/
theorem choose_isBest (g : Grid) (pieces : List (Piece ℚ)) :
    IsBest size pieces g.pieces g.capacity (g.choose pieces) := by
  obtain ⟨last, hfilled⟩ := g.filled_nil.fill pieces
  exact hfilled.isBest _ le_rfl _ le_rfl

end Grid

/-! ### The exact choice -/

/-- A table that is small enough to be filled has the budgets that were asked for. -/
theorem isTractable_ofBudgets {pieces : List (Piece ℚ)} {maxWeight : ℚ} {maxPieces : ℕ}
    (h : (Grid.ofBudgets pieces maxWeight maxPieces).isTractable pieces.length = true) :
    stepsWithin maxWeight = stepBudget maxWeight ∧
      stepBudget maxWeight < Exact.largestCount := by
  have hlayer : (Grid.ofBudgets pieces maxWeight maxPieces).layer ≤ Grid.cellLimit := by
    unfold Grid.isTractable at h
    simp only [Bool.and_eq_true, decide_eq_true_eq] at h
    exact h.1
  have hcapacity : stepsWithin maxWeight
      < (Grid.ofBudgets pieces maxWeight maxPieces).layer :=
    calc stepsWithin maxWeight
        < stepsWithin maxWeight + 1 := Nat.lt_succ_self _
      _ ≤ (min maxPieces pieces.length + 1) * (stepsWithin maxWeight + 1) :=
          Nat.le_mul_of_pos_left _ (Nat.succ_pos _)
  have hlimit : Grid.cellLimit < Exact.largestCount := by decide
  have hmin := stepsWithin_eq maxWeight
  omega

/-- The pieces that the exact choice keeps are a best choice in steps. -/
theorem knapsack?_isBest_stepCount {pieces : List (Piece ℚ)} {maxWeight : ℚ} {maxPieces : ℕ}
    {kept : List Bool} (h : knapsack? pieces maxWeight maxPieces = some kept) :
    IsBest stepCount pieces maxPieces (stepBudget maxWeight) kept := by
  unfold knapsack? at h
  dsimp only at h
  split at h
  · next htractable =>
      obtain ⟨hsteps, hlimit⟩ := isTractable_ofBudgets htractable
      obtain rfl := Option.some.inj h
      refine ((Grid.ofBudgets pieces maxWeight maxPieces).choose_isBest pieces).of_fits_iff
        fun other => ?_
      show _ ↔ Fits Grid.size pieces (min maxPieces pieces.length) (stepsWithin maxWeight) other
      rw [fits_min_iff, hsteps]
      exact (fits_stepsOf_iff hlimit).symm
  · cases h

/-- **The exact choice is best.** Where a choice is made at all, it decides on every piece, keeps
to both budgets in steps, and no choice that does so is worth more. For whole hundredths of a
kilogram the same holds in kilograms. -/
theorem knapsack?_isBest {pieces : List (Piece ℚ)} {maxWeight : ℚ} {maxPieces : ℕ}
    {kept : List Bool} (h : knapsack? pieces maxWeight maxPieces = some kept) :
    IsBest stepCount pieces maxPieces (stepBudget maxWeight) kept ∧
      ((∀ piece ∈ pieces, IsHundredths piece.weight) → IsHundredths maxWeight →
        IsBest Piece.weight pieces maxPieces maxWeight kept) := by
  have hbest := knapsack?_isBest_stepCount h
  exact ⟨hbest, fun hpieces hbudget =>
    hbest.of_fits_iff fun other => fits_stepCount_iff hpieces hbudget⟩

/-- Pieces of whole hundredths, one of them too heavy for any budget of less than five and one of
them worth nothing. -/
def hundredths : List (Piece ℚ) :=
  [⟨2 / 100, 3⟩, ⟨5 / 100, 9⟩, ⟨3 / 100, 5⟩, ⟨0, -1⟩, ⟨1 / 100, 2⟩]

theorem knapsack?_hundredths_isBest :
    knapsack? hundredths (4 / 100) 2 = some [false, false, true, false, true] ∧
      IsBest stepCount hundredths 2 (stepBudget (4 / 100)) [false, false, true, false, true] ∧
      IsBest Piece.weight hundredths 2 (4 / 100) [false, false, true, false, true] := by
  have hchoice : knapsack? hundredths (4 / 100) 2 = some [false, false, true, false, true] := by
    decide +kernel
  have hpieces : ∀ piece ∈ hundredths, IsHundredths piece.weight := by
    simp only [hundredths, List.forall_mem_cons]
    exact ⟨⟨2, by norm_num⟩, ⟨5, by norm_num⟩, ⟨3, by norm_num⟩, ⟨0, by norm_num⟩,
      ⟨1, by norm_num⟩, List.forall_mem_nil _⟩
  obtain ⟨hsteps, hweights⟩ := knapsack?_isBest hchoice
  exact ⟨hchoice, hsteps, hweights hpieces ⟨4, by norm_num⟩⟩

end Baggage.Selection

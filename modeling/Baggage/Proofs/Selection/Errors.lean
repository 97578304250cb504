import Baggage.Proofs.LinearProgram.Tight
import Baggage.Proofs.LinearProgram.Verdicts
import Baggage.Proofs.Selection.Rounding

/-!
# Baggage.Proofs.Selection.Errors

**Which errors a checked selector can still meet.** What `Selector.create` accepts makes a
relaxation in standard form, so the solver neither refuses it nor finds it infeasible. Nor does it
find it unbounded: the row that counts the pieces allows only so many shares, and no share is worth
more than the most valuable piece. What is left is a budget of pivots that is used up.

The exact strategy does not ask the solver. It fails exactly where the table would be too large,
said here without the limits of a machine word: a product that exceeds the largest table exceeds it
too where it is cut off at the largest word (`lt_saturated_iff`).
-/

namespace Baggage.Selection

open LinearProgram (Problem SolveError Solver)

/-! ### The relaxation -/

/-- Pieces are worth no more than some amount each. -/
theorem exists_value_le (pieces : List (Piece ℚ)) :
    ∃ most, 0 ≤ most ∧ ∀ piece ∈ pieces, piece.value ≤ most := by
  induction pieces with
  | nil => exact ⟨0, le_rfl, List.forall_mem_nil _⟩
  | cons piece pieces ih =>
      obtain ⟨most, hmost, hpieces⟩ := ih
      refine ⟨max piece.value most, le_max_of_le_right hmost, ?_⟩
      exact List.forall_mem_cons.mpr ⟨le_max_left _ _,
        fun other hother => (hpieces other hother).trans (le_max_right _ _)⟩

/-- Shares measure no more than as many of the largest piece. -/
theorem shareSum_le_mul {measure : Piece ℚ → ℚ} {most : ℚ} {pieces : List (Piece ℚ)}
    {shares : List ℚ} (hmeasure : ∀ piece ∈ pieces, measure piece ≤ most)
    (hshares : ∀ share ∈ shares, 0 ≤ share) :
    shareSum measure pieces shares ≤ most * shareSum (fun _ => 1) pieces shares := by
  induction pieces generalizing shares with
  | nil => simp
  | cons piece pieces ih =>
      cases shares with
      | nil => simp
      | cons share shares =>
          obtain ⟨hpiece, hpieces⟩ := List.forall_mem_cons.mp hmeasure
          obtain ⟨hshare, hothers⟩ := List.forall_mem_cons.mp hshares
          have hterm : measure piece * share ≤ most * share :=
            mul_le_mul_of_nonneg_right hpiece hshare
          have hsum := ih hpieces hothers
          rw [shareSum_cons, shareSum_cons, one_mul, mul_add]
          exact add_le_add hterm hsum

namespace Selector

variable {s : Selector ℚ}

/-- The objective of the relaxation is bounded by its row that counts the pieces. -/
theorem exists_le_sign_mul_evaluate (s : Selector ℚ) :
    ∃ m, ∀ shares, s.relaxation.IsFeasible shares →
      m ≤ s.relaxation.sign * s.relaxation.evaluate shares := by
  obtain ⟨most, hmost, hpieces⟩ := exists_value_le s.pieces
  refine ⟨-(most * s.budget.maxPieces), fun shares hfeas => ?_⟩
  obtain ⟨-, hshares, -, hcount⟩ := isFeasible_relaxation_iff.mp hfeas
  have hvalue : shareSum Piece.value s.pieces shares ≤ most * s.budget.maxPieces :=
    calc shareSum Piece.value s.pieces shares
        ≤ most * shareSum (fun _ => 1) s.pieces shares := shareSum_le_mul hpieces hshares
      _ ≤ most * s.budget.maxPieces := mul_le_mul_of_nonneg_left hcount hmost
  have hsign : s.relaxation.sign = -1 := rfl
  rw [hsign, evaluate_relaxation, neg_one_mul]
  exact neg_le_neg hvalue

/-- **The relaxation fails only where a budget of pivots is used up.** -/
theorem solve_relaxation_error {solver : Solver ℚ} (hbudget : 0 ≤ s.budget.maxWeight)
    (htol : solver.tolerance = 0) {cause : SolveError ℚ}
    (h : (solver.solve s.relaxation).result = .error cause) : ∃ n, cause = .didNotConverge n := by
  have hstandard := fault?_relaxation hbudget
  rcases Solver.solve_standard_cases hstandard with
    ⟨solution, hok⟩ | ⟨column, herror⟩ | ⟨n, herror⟩
  · cases hok.symm.trans h
  · obtain ⟨m, hbounded⟩ := s.exists_le_sign_mul_evaluate
    exact absurd herror
      (Solver.solve_ne_unbounded htol ⟨_, Problem.isFeasible_origin hstandard⟩ hbounded column)
  · exact ⟨n, Except.error.inj (h.symm.trans herror)⟩

end Selector

/-! ### The exact strategy -/

/-- A count cut off at the largest one. -/
def saturated (n : ℕ) : ℕ := min n Exact.largestCount

theorem lt_saturated_iff {limit n : ℕ} (hlimit : limit < Exact.largestCount) :
    limit < saturated n ↔ limit < n := by
  rw [saturated, lt_min_iff]
  exact and_iff_left hlimit

/-- The number of cells, counted without the limits of a word. -/
def cellCount (maxWeight : ℚ) (maxPieces pieces : ℕ) : ℕ :=
  (min maxPieces pieces + 1) * (stepBudget maxWeight + 1)

/-- The steps of a budget are cut off only where there are too many of them anyway. -/
theorem layer_ofBudgets (pieces : List (Piece ℚ)) (maxWeight : ℚ) (maxPieces : ℕ) :
    (Grid.ofBudgets pieces maxWeight maxPieces).layer
        = cellCount maxWeight maxPieces pieces.length ∨
      Grid.cellLimit < (Grid.ofBudgets pieces maxWeight maxPieces).layer ∧
        Grid.cellLimit < cellCount maxWeight maxPieces pieces.length := by
  have hlayer : (Grid.ofBudgets pieces maxWeight maxPieces).layer
      = (min maxPieces pieces.length + 1) * (stepsWithin maxWeight + 1) := rfl
  have hlimit : Grid.cellLimit < Exact.largestCount := by decide
  have hmin := stepsWithin_eq maxWeight
  have hfactor : ∀ steps, steps < (min maxPieces pieces.length + 1) * (steps + 1) :=
    fun steps => Nat.lt_of_lt_of_le (Nat.lt_succ_self _)
      (Nat.le_mul_of_pos_left _ (Nat.succ_pos _))
  rcases le_or_gt (stepBudget maxWeight) Exact.largestCount with hle | hgt
  · left
    rw [hlayer, cellCount, hmin, min_eq_left hle]
  · right
    have hsteps := hfactor (stepsWithin maxWeight)
    have hbudget := hfactor (stepBudget maxWeight)
    rw [hlayer, cellCount]
    omega

/-- **The table is too large** exactly if its cells or the marks of all pieces are too many, also
where the products are cut off. -/
theorem knapsack?_eq_none_iff {pieces : List (Piece ℚ)} {maxWeight : ℚ} {maxPieces : ℕ} :
    knapsack? pieces maxWeight maxPieces = none ↔
      Grid.cellLimit < saturated (cellCount maxWeight maxPieces pieces.length) ∨
      Grid.cellLimit
        < saturated (pieces.length * saturated (cellCount maxWeight maxPieces pieces.length)) := by
  have hlimit : Grid.cellLimit < Exact.largestCount := by decide
  have hnone : knapsack? pieces maxWeight maxPieces = none ↔
      Grid.cellLimit < (Grid.ofBudgets pieces maxWeight maxPieces).layer ∨
      Grid.cellLimit < pieces.length * (Grid.ofBudgets pieces maxWeight maxPieces).layer := by
    simp only [knapsack?, Grid.isTractable, ite_eq_right_iff, reduceCtorEq, imp_false,
      Bool.and_eq_true, decide_eq_true_eq, not_and_or, not_le]
  rw [hnone, lt_saturated_iff hlimit, lt_saturated_iff hlimit]
  rcases layer_ofBudgets pieces maxWeight maxPieces with hsame | ⟨hlayer, hcount⟩
  · rw [hsame]
    -- a number of cells within the limit is not cut off
    rcases le_or_gt (cellCount maxWeight maxPieces pieces.length) Grid.cellLimit with hle | hgt
    · rw [saturated, min_eq_left (hle.trans hlimit.le)]
    · exact iff_of_true (Or.inl hgt) (Or.inl hgt)
  · exact iff_of_true (Or.inl hlayer) (Or.inl hcount)

namespace Selector

theorem length_pieces {weights values : List ℚ} {budget : Budget ℚ} {s : Selector ℚ}
    (h : create weights values budget = .ok s) : s.pieces.length = weights.length := by
  obtain ⟨hfault, rfl⟩ := create_inv h
  have hlength := (fault?_eq_none_iff.mp hfault).1
  rw [List.length_zipWith, hlength, min_self]

/-- **The errors of a checked selector.** With a tolerance of zero the relaxation fails only where
the solver's budget of pivots is used up, whatever that budget and the solver's mode. The exact
strategy fails only where its table would have more than twenty million cells or marks, and then it
does fail and says so; the counts are those of a machine word, cut off at its largest value. -/
theorem choose_errors {weights values : List ℚ} {budget : Budget ℚ} {s : Selector ℚ}
    (hcreate : create weights values budget = .ok s) (rate : ℚ) (solver : Solver ℚ)
    (e : SelectionError ℚ) :
    (solver.tolerance = 0 →
      ({ s with strategy := .relaxation, excessRate := rate, solver := solver } :
        Selector ℚ).choose.result = .error e → ∃ n, e = .unsolved (.didNotConverge n)) ∧
    (({ s with strategy := .exact, excessRate := rate, solver := solver } :
        Selector ℚ).choose.result = .error e ↔
      e = .refused (.tooLarge weights.length budget.maxWeight) ∧
        (20000000 < saturated ((min budget.maxPieces weights.length + 1)
            * (⌊100 * budget.maxWeight + 1 / 10 ^ 6⌋₊ + 1)) ∨
          20000000 < saturated (weights.length * saturated
            ((min budget.maxPieces weights.length + 1)
              * (⌊100 * budget.maxWeight + 1 / 10 ^ 6⌋₊ + 1))))) := by
  have hlength := length_pieces hcreate
  obtain ⟨-, rfl, hbudget⟩ := create_eq_ok hcreate
  constructor
  · intro htol h
    obtain ⟨cause, hcause, rfl⟩ := (keep_relaxation_eq_error_iff rfl).mp (choose_eq_error_iff.mp h)
    obtain ⟨n, rfl⟩ := solve_relaxation_error hbudget htol hcause
    exact ⟨n, rfl⟩
  · rw [choose_eq_error_iff, keep_exact_eq_error_iff rfl, knapsack?_eq_none_iff, hlength]
    rfl

/-- A selector for one piece under a budget of two hundred tonnes. -/
def vast : Selector ℚ :=
  { pieces := [⟨1, 1⟩]
    budget := ⟨200000, 1, 0⟩
    strategy := .relaxation
    excessRate := standardExcessRate
    solver := .standard }

theorem create_vast : create [1] [1] ⟨200000, 1, 0⟩ = .ok vast := by
  norm_num [create, fault?, isAmount, List.findIdx?_cons, vast]

/-- One pivot does not suffice for a relaxation that takes two, and the table for the vast budget
has too many cells. -/
theorem choose_uneven_errors :
    (∃ e n, ({ uneven with solver := ⟨some 1, 0, false⟩ } : Selector ℚ).choose.result = .error e ∧
      e = .unsolved (.didNotConverge n)) ∧
    ({ vast with strategy := .exact } : Selector ℚ).choose.result
      = .error (.refused (.tooLarge 1 200000)) := by
  have hsolve : (Solver.solve ⟨some 1, 0, false⟩ uneven.relaxation).result
      = .error (.didNotConverge 1) := by decide +kernel
  have hchoose : ({ uneven with solver := ⟨some 1, 0, false⟩ } : Selector ℚ).choose.result
      = .error (.unsolved (.didNotConverge 1)) :=
    choose_eq_error_iff.mpr ((keep_relaxation_eq_error_iff rfl).mpr ⟨_, hsolve, rfl⟩)
  have htol : (⟨some 1, 0, false⟩ : Solver ℚ).tolerance = 0 := rfl
  obtain ⟨n, hn⟩ :=
    (choose_errors create_uneven standardExcessRate ⟨some 1, 0, false⟩ _).1 htol hchoose
  refine ⟨⟨_, n, hchoose, hn⟩, ?_⟩
  refine (choose_errors create_vast standardExcessRate .standard _).2.mpr ⟨rfl, Or.inl ?_⟩
  decide +kernel

end Selector

end Baggage.Selection

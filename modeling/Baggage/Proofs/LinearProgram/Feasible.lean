import Baggage.LinearProgram.Start
import Baggage.Proofs.Arithmetic

/-!
# Baggage.Proofs.LinearProgram.Feasible

**Feasible and optimal points** of a linear program, said of the problem itself and without a
tableau. A point is the list of the values of the variables; it is feasible if no value is negative
and every row is met, and optimal if no feasible point has a better objective.

`Row.excess` is the turned row as an equation in the point and the value of its slack column. Its
lemmas say that a row is met exactly if the equation holds for a slack that is not negative, and
that an inequality leaves no choice of the slack.
-/

namespace Baggage.LinearProgram

/-! ### Rows -/

namespace Row

/-- The left-hand side of a row at a point. -/
def activity (row : Row ℚ) (x : List ℚ) : ℚ := Arithmetic.dot row.coefficients x

/-- Whether a point meets a row. -/
def IsMet (row : Row ℚ) (x : List ℚ) : Prop :=
  match row.relation with
  | .atMost => row.activity x ≤ row.bound
  | .atLeast => row.bound ≤ row.activity x
  | .equal => row.activity x = row.bound

instance (row : Row ℚ) (x : List ℚ) : Decidable (row.IsMet x) :=
  match hrel : row.relation with
  | .atMost => decidable_of_iff (row.activity x ≤ row.bound) (by simp [IsMet, hrel])
  | .atLeast => decidable_of_iff (row.bound ≤ row.activity x) (by simp [IsMet, hrel])
  | .equal => decidable_of_iff (row.activity x = row.bound) (by simp [IsMet, hrel])

/-- How far the left-hand side stays within the bound; zero for an equation. -/
def slack (row : Row ℚ) (x : List ℚ) : ℚ :=
  match row.relation with
  | .atMost => row.bound - row.activity x
  | .atLeast => row.activity x - row.bound
  | .equal => 0

/-- How far the turned row exceeds its bound at a point, its slack column having the value `w`. -/
def excess (row : Row ℚ) (x : List ℚ) (w : ℚ) : ℚ :=
  row.turn * (row.activity x - row.bound) + row.slackCoefficient * w

theorem turn_of_neg {row : Row ℚ} (h : row.bound < 0) : row.turn = -1 := by
  have hturned : row.isTurned = true := by simpa [isTurned] using h
  rw [turn, if_pos hturned]
  rfl

theorem turn_of_nonneg {row : Row ℚ} (h : 0 ≤ row.bound) : row.turn = 1 := by
  have hturned : ¬ row.isTurned = true := by simpa [isTurned] using h
  rw [turn, if_neg hturned]
  rfl

/-- The coefficient of the slack in the turned row counts in the direction of the relation. -/
theorem slackCoefficient_eq (row : Row ℚ) :
    row.slackCoefficient = match row.relation with
      | .atMost => row.turn
      | .atLeast => -row.turn
      | .equal => 0 := by
  by_cases h : row.bound < 0
  · have hturned : row.isTurned = true := by simpa [isTurned] using h
    rw [turn_of_neg h]
    cases hrel : row.relation <;>
      simp [slackCoefficient, turnedRelation, hturned, hrel, Relation.reverse]
  · have hturned : row.isTurned = false := by simpa [isTurned] using h
    rw [turn_of_nonneg (not_lt.mp h)]
    cases hrel : row.relation <;>
      simp [slackCoefficient, turnedRelation, hturned, hrel]

/-- The slack that a row starts from has the coefficient one. -/
theorem slackCoefficient_of_not_needs {row : Row ℚ} (h : ¬ row.needsArtificial = true) :
    row.slackCoefficient = 1 := by
  have hrel : row.turnedRelation = .atMost := by simpa [needsArtificial] using h
  rw [slackCoefficient, hrel]
  rfl

theorem turn_mul_turn (row : Row ℚ) : row.turn * row.turn = 1 := by
  rcases lt_or_ge row.bound 0 with h | h
  · rw [turn_of_neg h, neg_one_mul, neg_neg]
  · rw [turn_of_nonneg h, one_mul]

theorem turn_ne_zero (row : Row ℚ) : row.turn ≠ 0 := by
  intro h
  have hone := row.turn_mul_turn
  rw [h, zero_mul] at hone
  exact zero_ne_one hone

/-- After turning no bound is negative. -/
theorem turn_mul_bound_nonneg (row : Row ℚ) : 0 ≤ row.turn * row.bound := by
  rcases lt_or_ge row.bound 0 with h | h
  · rw [turn_of_neg h, neg_one_mul]
    exact neg_nonneg.mpr h.le
  · rw [turn_of_nonneg h, one_mul]
    exact h

/-- A row that is met holds as an equation with its own slack. -/
theorem IsMet.excess_slack {row : Row ℚ} {x : List ℚ} (h : row.IsMet x) :
    row.excess x (row.slack x) = 0 := by
  unfold IsMet at h
  rw [excess, slackCoefficient_eq, slack]
  cases hrel : row.relation <;> simp only [hrel] at h ⊢
  · ring
  · ring
  · rw [h]
    ring

theorem IsMet.slack_nonneg {row : Row ℚ} {x : List ℚ} (h : row.IsMet x) : 0 ≤ row.slack x := by
  unfold IsMet at h
  rw [slack]
  cases hrel : row.relation <;> simp only [hrel] at h ⊢
  · exact sub_nonneg.mpr h
  · exact sub_nonneg.mpr h
  · exact le_rfl

/-- An inequality that holds as an equation has no other slack than its own. -/
theorem eq_slack_of_excess_eq_zero {row : Row ℚ} {x : List ℚ} {w : ℚ}
    (h : row.excess x w = 0) (hne : row.relation ≠ .equal) : w = row.slack x := by
  have hturn := row.turn_ne_zero
  rw [excess, slackCoefficient_eq] at h
  rw [slack]
  cases hrel : row.relation <;> simp only [hrel] at h ⊢
  · have hmul : row.turn * (row.activity x - row.bound + w) = 0 := by linarith
    linarith [(mul_eq_zero.mp hmul).resolve_left hturn]
  · have hmul : row.turn * (row.activity x - row.bound - w) = 0 := by linarith
    linarith [(mul_eq_zero.mp hmul).resolve_left hturn]
  · exact absurd hrel hne

/-- A row is met if it holds as an equation with a slack that is not negative. -/
theorem isMet_of_excess_eq_zero {row : Row ℚ} {x : List ℚ} {w : ℚ}
    (h : row.excess x w = 0) (hw : 0 ≤ w) : row.IsMet x := by
  by_cases hequal : row.relation = .equal
  · rw [excess, slackCoefficient_eq] at h
    unfold IsMet
    simp only [hequal, zero_mul, add_zero] at h ⊢
    exact sub_eq_zero.mp ((mul_eq_zero.mp h).resolve_left row.turn_ne_zero)
  · rw [eq_slack_of_excess_eq_zero h hequal, slack] at hw
    unfold IsMet
    cases hrel : row.relation <;> simp only [hrel] at hw ⊢
    · exact sub_nonneg.mp hw
    · exact sub_nonneg.mp hw
    · exact absurd hrel hequal

end Row

/-! ### Accepted rows -/

/-- **What makes a row acceptable**, in every arithmetic: its length, numbers that are finite, and
in standard form that it is an upper bound which is not negative. -/
def Row.IsAccepted {α : Type} [Arithmetic α] (general : Bool) (count : Nat) (row : Row α) : Prop :=
  row.coefficients.length = count ∧
    ((∀ c ∈ row.coefficients, Arithmetic.isFinite c = true) ∧
      Arithmetic.isFinite row.bound = true) ∧
    (general = true ∨ row.relation = .atMost ∧ Arithmetic.lt row.bound Arithmetic.zero = false)

section Accepted

variable {α : Type} [Arithmetic α] {general : Bool}

theorem Problem.rowFault?_eq_none_iff_isAccepted {count : Nat} {row : Row α} :
    rowFault? general count row = none ↔ row.IsAccepted general count := by
  have hfinite : (row.coefficients.all Arithmetic.isFinite && Arithmetic.isFinite row.bound) = true
      ↔ (∀ c ∈ row.coefficients, Arithmetic.isFinite c = true) ∧
        Arithmetic.isFinite row.bound = true := by simp
  unfold rowFault? Row.IsAccepted
  rw [← hfinite]
  by_cases hlength : row.coefficients.length = count
  · cases (row.coefficients.all Arithmetic.isFinite && Arithmetic.isFinite row.bound) with
    | false => simp [hlength]
    | true =>
        cases general with
        | true => simp [hlength]
        | false =>
            by_cases hrel : row.relation = .atMost
            · simp [hlength, hrel]
            · simp [hlength, hrel]
  · simp [hlength]

theorem Problem.fault?_eq_none_iff_isAccepted {p : Problem α} :
    p.fault? general = none ↔ (∀ c ∈ p.objective, Arithmetic.isFinite c = true) ∧
      ∀ row ∈ p.rows, row.IsAccepted general p.variableCount := by
  have hfinite : p.objective.findIdx? (fun c => !Arithmetic.isFinite c) = none ↔
      ∀ c ∈ p.objective, Arithmetic.isFinite c = true := by simp [List.findIdx?_eq_none_iff]
  unfold fault?
  split
  · next index hindex =>
      refine iff_of_false (Option.some_ne_none _) fun h => ?_
      exact Option.some_ne_none _ (hindex.symm.trans (hfinite.mpr h.1))
  · next hnone =>
      simp only [List.findSome?_eq_none_iff, rowFault?_eq_none_iff_isAccepted]
      exact (and_iff_right (hfinite.mp hnone)).symm

/-- All rows in standard form start from their slacks. -/
theorem Problem.artificials_eq_zero {p : Problem α} (h : p.fault? false = none) :
    p.shape.artificials = 0 := by
  refine List.countP_eq_zero.mpr fun row hrow => ?_
  obtain ⟨-, -, hstandard⟩ := (fault?_eq_none_iff_isAccepted.mp h).2 row hrow
  simp only [Bool.false_eq_true, false_or] at hstandard
  simp [Row.needsArtificial, Row.turnedRelation, Row.isTurned, hstandard.1, hstandard.2]

end Accepted

/-- Every rational number is finite. -/
theorem Problem.fault?_eq_none_iff {general : Bool} {p : Problem ℚ} :
    p.fault? general = none ↔ ∀ row ∈ p.rows, row.coefficients.length = p.variableCount ∧
      (general = true ∨ row.relation = .atMost ∧ 0 ≤ row.bound) := by
  simp [fault?_eq_none_iff_isAccepted, Row.IsAccepted]

/-! ### Points of a problem -/

namespace Problem

/-- A point that meets all conditions of a problem. -/
structure IsFeasible (p : Problem ℚ) (x : List ℚ) : Prop where
  /-- There is one value for each variable. -/
  length_eq : x.length = p.variableCount
  /-- No value is negative. -/
  nonneg : ∀ v ∈ x, 0 ≤ v
  /-- Every row is met. -/
  isMet : ∀ row ∈ p.rows, row.IsMet x

instance (p : Problem ℚ) (x : List ℚ) : Decidable (p.IsFeasible x) :=
  decidable_of_iff
    (x.length = p.variableCount ∧ (∀ v ∈ x, 0 ≤ v) ∧ ∀ row ∈ p.rows, row.IsMet x)
    ⟨fun h => ⟨h.1, h.2.1, h.2.2⟩, fun h => ⟨h.length_eq, h.nonneg, h.isMet⟩⟩

/-- The origin is feasible for every problem in standard form. -/
theorem isFeasible_origin {p : Problem ℚ} (h : p.fault? false = none) :
    p.IsFeasible (List.replicate p.variableCount 0) := by
  refine ⟨List.length_replicate, fun v hv => (List.eq_of_mem_replicate hv).ge, fun row hrow => ?_⟩
  have hstandard := (fault?_eq_none_iff.mp h row hrow).2
  simp only [Bool.false_eq_true, false_or] at hstandard
  have hactivity : row.activity (List.replicate p.variableCount 0) = 0 := by
    rw [Row.activity, ← List.ofFn_const, Arithmetic.rat_dot_ofFn]
    simp
  unfold Row.IsMet
  simp only [hstandard.1, hactivity]
  exact hstandard.2

/-- Whether one value of the objective is at least as good as another one. -/
def NoWorse (p : Problem ℚ) (a b : ℚ) : Prop := if p.maximize then b ≤ a else a ≤ b

/-- A feasible point such that no feasible point has a better objective. -/
structure IsOptimal (p : Problem ℚ) (x : List ℚ) : Prop where
  /-- The point is feasible. -/
  isFeasible : p.IsFeasible x
  /-- Its objective is at least as good as that of every feasible point. -/
  noWorse : ∀ y, p.IsFeasible y → p.NoWorse (p.evaluate x) (p.evaluate y)

/-- The factor by which the objective enters the costs, which are to be minimised. -/
def sign (p : Problem ℚ) : ℚ := if p.maximize then -1 else 1

theorem noWorse_iff (p : Problem ℚ) (a b : ℚ) : p.NoWorse a b ↔ p.sign * a ≤ p.sign * b := by
  unfold NoWorse sign
  split
  · rw [neg_one_mul, neg_one_mul, neg_le_neg_iff]
  · rw [one_mul, one_mul]

theorem sign_mul_sign (p : Problem ℚ) : p.sign * p.sign = 1 := by
  unfold sign
  split
  · rw [neg_one_mul, neg_neg]
  · rw [one_mul]

/-- A value gets better by what the costs save. -/
theorem noWorse_sub_sign_mul (p : Problem ℚ) (a : ℚ) {cost : ℚ} (h : 0 ≤ cost) :
    p.NoWorse (a - p.sign * cost) a := by
  rw [noWorse_iff, mul_sub, ← mul_assoc, sign_mul_sign, one_mul]
  exact sub_le_self _ h

end Problem

end Baggage.LinearProgram

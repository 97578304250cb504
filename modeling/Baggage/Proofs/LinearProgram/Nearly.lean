import Baggage.Proofs.LinearProgram.Point

/-!
# Baggage.Proofs.LinearProgram.Nearly

**Nearly feasible points** of a linear program: no value is below zero and no row is missed by more
than a margin. With a margin of zero they are the feasible points.

A point of the starting tableau with small artificial columns is nearly feasible
(`isFeasibleWithin_point`), since the artificial column of a row is just what the row is missed by.
-/

namespace Baggage.LinearProgram

namespace Row

/-- Whether a point meets a row up to a margin. -/
def IsMetWithin (row : Row ℚ) (margin : ℚ) (x : List ℚ) : Prop :=
  match row.relation with
  | .atMost => row.activity x ≤ row.bound + margin
  | .atLeast => row.bound - margin ≤ row.activity x
  | .equal => |row.activity x - row.bound| ≤ margin

instance (row : Row ℚ) (margin : ℚ) (x : List ℚ) : Decidable (row.IsMetWithin margin x) :=
  match hrel : row.relation with
  | .atMost => decidable_of_iff (row.activity x ≤ row.bound + margin) (by simp [IsMetWithin, hrel])
  | .atLeast => decidable_of_iff (row.bound - margin ≤ row.activity x) (by simp [IsMetWithin, hrel])
  | .equal => decidable_of_iff (|row.activity x - row.bound| ≤ margin) (by simp [IsMetWithin, hrel])

theorem isMetWithin_zero_iff {row : Row ℚ} {x : List ℚ} : row.IsMetWithin 0 x ↔ row.IsMet x := by
  unfold IsMetWithin IsMet
  cases row.relation with
  | atMost => simp
  | atLeast => simp
  | equal => simp [sub_eq_zero]

theorem abs_turn_mul (row : Row ℚ) (a : ℚ) : |row.turn * a| = |a| := by
  rcases lt_or_ge row.bound 0 with h | h
  · rw [turn_of_neg h, neg_one_mul, abs_neg]
  · rw [turn_of_nonneg h, one_mul]

/-- What a row is missed by as an equation with a slack, it is missed by at most. -/
theorem isMetWithin_of_abs_excess_le {row : Row ℚ} {x : List ℚ} {w margin : ℚ}
    (h : |row.excess x w| ≤ margin) (hw : 0 ≤ w) : row.IsMetWithin margin x := by
  rw [excess, slackCoefficient_eq] at h
  unfold IsMetWithin
  cases hrel : row.relation with
  | atMost =>
      simp only [hrel] at h ⊢
      rw [← mul_add, abs_turn_mul] at h
      linarith [le_of_abs_le h]
  | atLeast =>
      simp only [hrel] at h ⊢
      rw [neg_mul, ← sub_eq_add_neg, ← mul_sub, abs_turn_mul] at h
      linarith [neg_le_of_abs_le h]
  | equal =>
      simp only [hrel, zero_mul, add_zero] at h ⊢
      rwa [abs_turn_mul] at h

end Row

namespace Problem

/-- A point that meets all conditions of a problem up to a margin. -/
structure IsFeasibleWithin (p : Problem ℚ) (margin : ℚ) (x : List ℚ) : Prop where
  /-- There is one value for each variable. -/
  length_eq : x.length = p.variableCount
  /-- No value is further below zero than the margin. -/
  neg_le : ∀ v ∈ x, -margin ≤ v
  /-- No row is missed by more than the margin. -/
  isMetWithin : ∀ row ∈ p.rows, row.IsMetWithin margin x

instance (p : Problem ℚ) (margin : ℚ) (x : List ℚ) : Decidable (p.IsFeasibleWithin margin x) :=
  decidable_of_iff
    (x.length = p.variableCount ∧ (∀ v ∈ x, -margin ≤ v) ∧ ∀ row ∈ p.rows, row.IsMetWithin margin x)
    ⟨fun h => ⟨h.1, h.2.1, h.2.2⟩, fun h => ⟨h.length_eq, h.neg_le, h.isMetWithin⟩⟩

variable {p : Problem ℚ} {x : List ℚ}

theorem isFeasibleWithin_zero_iff : p.IsFeasibleWithin 0 x ↔ p.IsFeasible x := by
  constructor
  · rintro ⟨hlength, hvalues, hrows⟩
    refine ⟨hlength, fun v hv => ?_, fun row hrow => Row.isMetWithin_zero_iff.mp (hrows row hrow)⟩
    simpa using hvalues v hv
  · rintro ⟨hlength, hvalues, hrows⟩
    refine ⟨hlength, fun v hv => ?_, fun row hrow => Row.isMetWithin_zero_iff.mpr (hrows row hrow)⟩
    simpa using hvalues v hv

/-- **A point without negative values that solves the starting tableau is nearly feasible**, with
the largest of its artificial columns as the margin. -/
theorem isFeasibleWithin_point {z : Fin p.shape.columns → ℚ} (hsolves : p.start.Solves z)
    (hnonneg : ∀ j, 0 ≤ z j) {margin : ℚ} (hmargin : 0 ≤ margin)
    (hle : ∀ j : Fin p.shape.columns, p.shape.proper ≤ j.val → z j ≤ margin) :
    p.IsFeasibleWithin margin (p.point z) := by
  constructor
  · exact List.length_ofFn
  · intro v hv
    obtain ⟨j, rfl⟩ := (List.mem_ofFn' _ _).mp hv
    exact le_trans (neg_nonpos.mpr hmargin) (hnonneg _)
  · intro row hrow
    obtain ⟨i, rfl⟩ := List.mem_iff_get.mp hrow
    have hexcess := hsolves i
    rw [equation_start, p.excess_startEquation] at hexcess
    refine Row.isMetWithin_of_abs_excess_le ?_ (hnonneg (p.shape.slackColumn i))
    -- as an equation the row is missed by its artificial column, if it has one
    show |(p.row i).excess (p.point z) (z (p.shape.slackColumn i))| ≤ margin
    rw [eq_neg_of_add_eq_zero_left hexcess, abs_neg]
    split
    · next hneeds =>
        rw [abs_of_nonneg (hnonneg _)]
        exact hle _ ((p.proper_le_startColumn_iff i).mpr hneeds)
    · rwa [abs_zero]

end Problem

end Baggage.LinearProgram

import Baggage.LinearProgram.Solution
import Baggage.Proofs.LinearProgram.Basis

/-!
# Baggage.Proofs.LinearProgram.Vertex

**The points of a tableau in solved form.** Its `vertex` gives every basic column the right-hand
side of its equation and every other column zero; along a `ray` one more column grows, and the
basic columns make up for it. Both solve the tableau, and the costs have a simple value there.

`value_eq_vertex` says that the values read off the unit columns are those of the vertex, for every
tolerance below one.
-/

namespace Baggage.LinearProgram

namespace Tableau

variable {s : Shape}

/-! ### Points given on the basic columns -/

/-- The point whose basic columns have given values and whose other columns are zero. -/
def basicPoint (t : Tableau ℚ s) (f : Fin s.rows → ℚ) : Fin s.columns → ℚ :=
  fun j => ∑ i, if t.basicColumn i = j then f i else 0

theorem basicPoint_nonneg (t : Tableau ℚ s) {f : Fin s.rows → ℚ} (hf : ∀ i, 0 ≤ f i)
    (j : Fin s.columns) : 0 ≤ t.basicPoint f j := by
  refine Finset.sum_nonneg fun i _ => ?_
  split
  · exact hf i
  · exact le_rfl

theorem basicPoint_eq_zero (t : Tableau ℚ s) {f : Fin s.rows → ℚ} {j : Fin s.columns}
    (hf : ∀ i, t.basicColumn i = j → f i = 0) : t.basicPoint f j = 0 := by
  refine Finset.sum_eq_zero fun i _ => ?_
  split
  · next h => exact hf i h
  · rfl

theorem IsSolved.basicPoint_basicColumn {t : Tableau ℚ s} (h : t.IsSolved) (f : Fin s.rows → ℚ)
    (k : Fin s.rows) : t.basicPoint f (t.basicColumn k) = f k := by
  simp [basicPoint, h.basicColumn_injective.eq_iff]

/-- At such a point an equation only sees its coefficients in the basic columns. -/
theorem excess_basicPoint (t : Tableau ℚ s) (e : Equation ℚ s.columns) (f : Fin s.rows → ℚ) :
    e.excess (t.basicPoint f) = ∑ i, e.coefficient (t.basicColumn i) * f i - e.bound := by
  simp only [Equation.excess, basicPoint, Finset.mul_sum]
  rw [Finset.sum_comm]
  simp

/-! ### The vertex -/

/-- The point at which every equation gives its right-hand side to its basic column. -/
def vertex (t : Tableau ℚ s) : Fin s.columns → ℚ := t.basicPoint t.bound

theorem IsSolved.vertex_basicColumn {t : Tableau ℚ s} (h : t.IsSolved) (k : Fin s.rows) :
    t.vertex (t.basicColumn k) = t.bound k := h.basicPoint_basicColumn _ k

theorem vertex_eq_zero (t : Tableau ℚ s) {j : Fin s.columns}
    (hj : ∀ i, t.basicColumn i = j → t.bound i = 0) : t.vertex j = 0 := t.basicPoint_eq_zero hj

theorem IsSolved.solves_vertex {t : Tableau ℚ s} (h : t.IsSolved) : t.Solves t.vertex := by
  intro i
  have hbasic : ∀ k, (t.equation i).coefficient (t.basicColumn k) = if i = k then 1 else 0 := h i
  rw [vertex, excess_basicPoint]
  simp only [hbasic, ite_mul, one_mul, zero_mul, Finset.sum_ite_eq, Finset.mem_univ, if_true]
  exact sub_self _

/-- At the vertex the objective is the negated right-hand side of the costs. -/
theorem Prices.excess_vertex {t : Tableau ℚ s} {objective : Equation ℚ s.columns}
    (h : t.Prices objective) (hsolved : t.IsSolved) :
    objective.excess t.vertex = -t.costs.bound := by
  have hzero : ∀ k, t.costs.coefficient (t.basicColumn k) = 0 := h.cost_basicColumn
  rw [← h.excess_eq hsolved.solves_vertex, vertex, excess_basicPoint]
  simp [hzero]

/-! ### Rays -/

/-- The point where a column has grown by `x` from the vertex. -/
def ray (t : Tableau ℚ s) (c : Fin s.columns) (x : ℚ) : Fin s.columns → ℚ :=
  t.basicPoint (fun i => t.bound i - t.entry i c * x) + Pi.single c x

theorem IsSolved.solves_ray {t : Tableau ℚ s} (h : t.IsSolved) (c : Fin s.columns) (x : ℚ) :
    t.Solves (t.ray c x) := by
  intro i
  have hbasic : ∀ k, (t.equation i).coefficient (t.basicColumn k) = if i = k then 1 else 0 := h i
  rw [ray, Equation.excess_add_single, excess_basicPoint]
  simp only [hbasic, ite_mul, one_mul, zero_mul, Finset.sum_ite_eq, Finset.mem_univ, if_true,
    entry_eq_coefficient, bound_eq_bound]
  ring

/-- Along a ray the objective changes by the cost of the column. -/
theorem Prices.excess_ray {t : Tableau ℚ s} {objective : Equation ℚ s.columns}
    (h : t.Prices objective) (hsolved : t.IsSolved) (c : Fin s.columns) (x : ℚ) :
    objective.excess (t.ray c x) = t.cost c * x - t.costs.bound := by
  have hzero : ∀ k, t.costs.coefficient (t.basicColumn k) = 0 := h.cost_basicColumn
  rw [← h.excess_eq (hsolved.solves_ray c x), ray, Equation.excess_add_single, excess_basicPoint]
  simp only [hzero, zero_mul, Finset.sum_const_zero, zero_sub, cost]
  ring

/-- If the cost of the column is negative, the objective sinks below every number. -/
theorem Prices.exists_ray_lt {t : Tableau ℚ s} {objective : Equation ℚ s.columns}
    (h : t.Prices objective) (hsolved : t.IsSolved) {c : Fin s.columns} (hcost : t.cost c < 0)
    (m : ℚ) : ∃ x, 0 ≤ x ∧ objective.excess (t.ray c x) < m := by
  have hneg : 0 < -t.cost c := neg_pos.mpr hcost
  -- at `reach` the objective is already less than `m` by one
  let reach := (1 - m - t.costs.bound) / -t.cost c
  have hreach : t.cost c * reach = m + t.costs.bound - 1 := by
    have hmul : -t.cost c * reach = 1 - m - t.costs.bound := mul_div_cancel₀ _ hneg.ne'
    linarith
  refine ⟨max 0 reach, le_max_left _ _, ?_⟩
  have hle : t.cost c * max 0 reach ≤ t.cost c * reach :=
    mul_le_mul_of_nonpos_left (le_max_right _ _) hcost.le
  rw [h.excess_ray hsolved]
  linarith

/-- No column becomes negative along a ray on which no basic column shrinks. -/
theorem ray_nonneg {t : Tableau ℚ s} {c : Fin s.columns} {x : ℚ} (hbound : ∀ i, 0 ≤ t.bound i)
    (hentry : ∀ i, t.entry i c ≤ 0) (hx : 0 ≤ x) (j : Fin s.columns) : 0 ≤ t.ray c x j := by
  refine add_nonneg (t.basicPoint_nonneg (fun i => ?_) j) ?_
  · exact sub_nonneg.mpr (le_trans (mul_nonpos_of_nonpos_of_nonneg (hentry i) hx) (hbound i))
  · rw [Pi.single_apply]
    split
    · exact hx
    · exact le_rfl

theorem ray_eq_zero {t : Tableau ℚ s} {c j : Fin s.columns} {x : ℚ} (hne : j ≠ c)
    (hj : ∀ i, t.basicColumn i = j → t.bound i = 0 ∧ t.entry i c = 0) : t.ray c x j = 0 := by
  have hbasic : t.basicPoint (fun i => t.bound i - t.entry i c * x) j = 0 := by
    refine t.basicPoint_eq_zero fun i hi => ?_
    obtain ⟨hbound, hentry⟩ := hj i hi
    rw [hbound, hentry, zero_mul, sub_zero]
  rw [ray, Pi.add_apply, hbasic, Pi.single_eq_of_ne hne, add_zero]

/-! ### Reading the vertex off the unit columns -/

theorem filter_eq_finRange {n : Nat} (k : Fin n) :
    (List.finRange n).filter (fun i => decide (i = k)) = [k] := by
  rw [List.filter_eq, List.count_eq_one_of_mem (List.nodup_finRange n) (List.mem_finRange k)]
  rfl

/-- A basic column is a unit column, and its one is in its own row. -/
theorem IsSolved.unitRow?_basicColumn {t : Tableau ℚ s} (h : t.IsSolved) {tolerance : ℚ}
    (hnonneg : 0 ≤ tolerance) (hlt : tolerance < 1) (k : Fin s.rows) :
    t.unitRow? tolerance (t.basicColumn k) = some k := by
  -- the entries of the column are one and zero, and the tolerance tells them apart
  have hone : ∀ i, Arithmetic.le (Arithmetic.abs (t.entry i (t.basicColumn k) - Arithmetic.one))
      tolerance = decide (i = k) := by
    intro i
    rw [h i k, Arithmetic.rat_le, Arithmetic.rat_abs]
    by_cases hi : i = k
    · have hdist : |(1 : ℚ) - 1| ≤ tolerance := by simpa using hnonneg
      simpa [hi] using hdist
    · have hdist : ¬ |(0 : ℚ) - 1| ≤ tolerance := by simpa using hlt
      simpa [hi] using hdist
  have hother : ∀ i, (!decide (i = k) && Arithmetic.lt tolerance
      (Arithmetic.abs (t.entry i (t.basicColumn k)))) = false := by
    intro i
    by_cases hi : i = k
    · simp [hi]
    · simpa [hi, h.entry_of_ne hi] using hnonneg
  unfold unitRow?
  simp only [hone, filter_eq_finRange, hother]
  simp

/-- **The values read off a tableau in solved form are those of its vertex.** -/
theorem IsSolved.value_eq_vertex {t : Tableau ℚ s} (h : t.IsSolved) {tolerance : ℚ}
    (hnonneg : 0 ≤ tolerance) (hlt : tolerance < 1) (j : Fin s.columns) :
    t.value tolerance j = t.vertex j := by
  by_cases hj : ∃ k, t.basicColumn k = j
  · obtain ⟨k, rfl⟩ := hj
    rw [h.vertex_basicColumn, value, h.unitRow?_basicColumn hnonneg hlt]
    exact if_pos rfl
  · have hnot : ∀ i, t.basicColumn i ≠ j := fun i hi => hj ⟨i, hi⟩
    rw [t.vertex_eq_zero fun i hi => absurd hi (hnot i), value]
    split
    · exact if_neg (hnot _)
    · rfl

end Tableau

end Baggage.LinearProgram

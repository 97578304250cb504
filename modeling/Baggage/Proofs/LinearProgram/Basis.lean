import Baggage.Proofs.LinearProgram.RowSpace

/-!
# Baggage.Proofs.LinearProgram.Basis

**Tableaus in solved form.** Every equation of a tableau is solved for its basic column: that
column has a one in it and zeros in all other equations (`IsSolved`). With the row space this makes
`IsFormOf`, the relation between a tableau and the one that the method began with, and `Prices`
relates its costs to an objective: they differ by a combination of equations only and leave no
basic column unpriced.

Both relations are kept by every pivot on an entry that differs from zero, whatever its sign, so
they hold in both phases, between them, and for every tolerance. `priceOut` establishes the second
one for any objective, and where only the artificial columns cost something, `priceArtificial` is
the same (`IsSolved.priceArtificial_eq`).
-/

namespace Baggage.LinearProgram

namespace Tableau

variable {s : Shape}

/-- Every equation is solved for its basic column. -/
def IsSolved (t : Tableau ℚ s) : Prop :=
  ∀ i k, t.entry i (t.basicColumn k) = if i = k then 1 else 0

/-- A tableau in solved form with the equations of another one, up to combinations. -/
structure IsFormOf (t t₀ : Tableau ℚ s) : Prop where
  /-- Every equation is solved for its basic column. -/
  solved : t.IsSolved
  /-- The combinations of equations are the same. -/
  rowSpace_eq : t.rowSpace = t₀.rowSpace

/-- The costs of a tableau stand for an objective. -/
structure Prices (t : Tableau ℚ s) (objective : Equation ℚ s.columns) : Prop where
  /-- Basic columns cost nothing. -/
  cost_basicColumn : ∀ k, t.cost (t.basicColumn k) = 0
  /-- The costs differ from the objective by a combination of equations. -/
  sub_mem_rowSpace : t.costs.excess - objective.excess ∈ t.rowSpace

theorem IsSolved.isFormOf {t : Tableau ℚ s} (h : t.IsSolved) : t.IsFormOf t := ⟨h, rfl⟩

theorem IsSolved.entry_self {t : Tableau ℚ s} (h : t.IsSolved) (i : Fin s.rows) :
    t.entry i (t.basicColumn i) = 1 := by
  rw [h, if_pos rfl]

theorem IsSolved.entry_of_ne {t : Tableau ℚ s} (h : t.IsSolved) {i k : Fin s.rows} (hne : i ≠ k) :
    t.entry i (t.basicColumn k) = 0 := by
  rw [h, if_neg hne]

/-- No column is basic in two equations. -/
theorem IsSolved.basicColumn_injective {t : Tableau ℚ s} (h : t.IsSolved) :
    Function.Injective t.basicColumn := by
  intro i k hik
  by_contra hne
  have hone : t.entry i (t.basicColumn i) = 1 := h.entry_self i
  rw [hik, h.entry_of_ne hne] at hone
  exact zero_ne_one hone

/-- Where the equations of the first tableau are met, so are those of its forms. -/
theorem IsFormOf.solves_iff {t t₀ : Tableau ℚ s} (h : t.IsFormOf t₀) {z : Fin s.columns → ℚ} :
    t.Solves z ↔ t₀.Solves z :=
  ⟨fun hz => hz.of_rowSpace_eq h.rowSpace_eq.symm, fun hz => hz.of_rowSpace_eq h.rowSpace_eq⟩

/-- At a point that solves the tableau, its costs have the value of the objective. -/
theorem Prices.excess_eq {t : Tableau ℚ s} {objective : Equation ℚ s.columns}
    (h : t.Prices objective) {z : Fin s.columns → ℚ} (hz : t.Solves z) :
    t.costs.excess z = objective.excess z :=
  sub_eq_zero.mp (hz.eq_zero h.sub_mem_rowSpace)

/-! ### Pivots -/

/-- After a pivot the basic columns of the other rows are as they were, and the entering column is
that of the pivot row. -/
theorem IsSolved.pivot {t : Tableau ℚ s} (h : t.IsSolved) {r : Fin s.rows} {c : Fin s.columns}
    (hne : t.entry r c ≠ 0) : (t.pivot r c).IsSolved := by
  intro i k
  by_cases hk : k = r
  · -- the entering column is cleared by the elimination itself
    subst hk
    rw [basicColumn_pivot_self]
    by_cases hi : i = k
    · subst hi
      rw [entry_pivot_self, div_self hne, if_pos rfl]
    · rw [entry_pivot_of_ne t k c hi, div_self hne, mul_one, sub_self, if_neg hi]
  · -- the other basic columns are zero in the pivot row, so nothing is subtracted from them
    have hzero : t.entry r (t.basicColumn k) = 0 := h.entry_of_ne (Ne.symm hk)
    rw [basicColumn_pivot_of_ne t r c hk]
    by_cases hi : i = r
    · subst hi
      rw [entry_pivot_self, hzero, zero_div, if_neg (Ne.symm hk)]
    · rw [entry_pivot_of_ne t r c hi, hzero, zero_div, mul_zero, sub_zero, h]

theorem IsFormOf.pivot {t t₀ : Tableau ℚ s} (h : t.IsFormOf t₀) {r : Fin s.rows}
    {c : Fin s.columns} (hne : t.entry r c ≠ 0) : (t.pivot r c).IsFormOf t₀ :=
  ⟨h.solved.pivot hne, (t.rowSpace_pivot hne).trans h.rowSpace_eq⟩

theorem Prices.pivot {t : Tableau ℚ s} {objective : Equation ℚ s.columns}
    (h : t.Prices objective) (hsolved : t.IsSolved) {r : Fin s.rows} {c : Fin s.columns}
    (hne : t.entry r c ≠ 0) : (t.pivot r c).Prices objective := by
  constructor
  · intro k
    rw [cost_pivot]
    by_cases hk : k = r
    · subst hk
      rw [basicColumn_pivot_self, div_self hne, mul_one, sub_self]
    · rw [basicColumn_pivot_of_ne t r c hk, hsolved.entry_of_ne (Ne.symm hk), zero_div, mul_zero,
        sub_zero, h.cost_basicColumn]
  · rw [t.rowSpace_pivot hne, costs_pivot, Equation.excess_eliminate, Equation.excess_divide,
      sub_right_comm]
    exact Submodule.sub_mem _ h.sub_mem_rowSpace
      (Submodule.smul_mem _ _ (Submodule.smul_mem _ _ (t.excess_mem_rowSpace r)))

/-! ### Pricing out -/

/-- One step of pricing out: eliminates the basic column of a row from the costs. -/
def priceStep (t : Tableau ℚ s) (priced : Equation ℚ s.columns) (i : Fin s.rows) :
    Equation ℚ s.columns :=
  priced.eliminate (t.equation i) (priced.coefficient (t.basicColumn i))

theorem excess_priceStep (t : Tableau ℚ s) (priced : Equation ℚ s.columns) (i : Fin s.rows) :
    (t.priceStep priced i).excess
      = priced.excess - priced.coefficient (t.basicColumn i) • (t.equation i).excess :=
  Equation.excess_eliminate _ _ _

theorem foldl_priceStep_sub_mem (t : Tableau ℚ s) (rows : List (Fin s.rows))
    (priced : Equation ℚ s.columns) :
    (rows.foldl t.priceStep priced).excess - priced.excess ∈ t.rowSpace := by
  induction rows generalizing priced with
  | nil => simp
  | cons i rest ih =>
      have hstep : (t.priceStep priced i).excess - priced.excess ∈ t.rowSpace := by
        rw [excess_priceStep, sub_sub_cancel_left]
        exact Submodule.neg_mem _ (Submodule.smul_mem _ _ (t.excess_mem_rowSpace i))
      rw [List.foldl_cons, ← sub_add_sub_cancel _ (t.priceStep priced i).excess]
      exact Submodule.add_mem _ (ih _) hstep

/-- Pricing out a list of rows eliminates their basic columns and brings back none of those
eliminated before, since the equation of a row has zeros in all other basic columns. -/
theorem foldl_priceStep_basicColumn {t : Tableau ℚ s} (h : t.IsSolved) (k : Fin s.rows)
    (rows : List (Fin s.rows)) (priced : Equation ℚ s.columns)
    (hk : priced.coefficient (t.basicColumn k) = 0 ∨ k ∈ rows) :
    (rows.foldl t.priceStep priced).coefficient (t.basicColumn k) = 0 := by
  -- the column is priced out already, or its row is still to come
  induction rows generalizing priced with
  | nil => simpa using hk
  | cons i rest ih =>
      rw [List.foldl_cons]
      apply ih
      have hcoef : (t.priceStep priced i).coefficient (t.basicColumn k)
          = priced.coefficient (t.basicColumn k)
            - priced.coefficient (t.basicColumn i) * t.entry i (t.basicColumn k) :=
        Equation.coefficient_eliminate _ _ _ _
      by_cases hik : i = k
      · subst hik
        left
        rw [hcoef, h.entry_self, mul_one, sub_self]
      · rcases hk with hzero | hmem
        · left
          rw [hcoef, h.entry_of_ne hik, mul_zero, sub_zero, hzero]
        · right
          exact (List.mem_cons.mp hmem).resolve_left (Ne.symm hik)

/-- A tableau with the costs of another objective. -/
def repriced (t : Tableau ℚ s) (objective : Equation ℚ s.columns) : Tableau ℚ s :=
  { t with costs := t.priceOut objective }

/-- **Pricing out** gives costs that stand for the objective. -/
theorem IsSolved.prices_repriced {t : Tableau ℚ s} (h : t.IsSolved)
    (objective : Equation ℚ s.columns) : (t.repriced objective).Prices objective := by
  constructor
  · intro k
    exact foldl_priceStep_basicColumn h k _ objective (Or.inr (List.mem_finRange k))
  · exact t.foldl_priceStep_sub_mem _ objective

/-- **Subtracting the equations of artificial columns prices out** the costs under which just these
columns cost one. What a basic column costs does not change before its own row is reached, since it
has zeros in all others. -/
theorem IsSolved.priceArtificial_eq {t : Tableau ℚ s} (h : t.IsSolved)
    {objective : Equation ℚ s.columns}
    (hobjective : ∀ j, objective.coefficient j = if j.val < s.proper then 0 else 1) :
    t.priceArtificial objective = t.priceOut objective := by
  have hfold : ∀ (rows : List (Fin s.rows)) (priced : Equation ℚ s.columns), rows.Nodup →
      (∀ k ∈ rows, priced.coefficient (t.basicColumn k) = objective.coefficient (t.basicColumn k)) →
      rows.foldl (fun priced row => if (t.basicColumn row).val < s.proper then priced
        else priced.subtract (t.equation row)) priced = rows.foldl t.priceStep priced := by
    intro rows
    induction rows with
    | nil => exact fun _ _ _ => rfl
    | cons i rest ih =>
        intro priced hnodup hcosts
        obtain ⟨hi, hrest⟩ := List.nodup_cons.mp hnodup
        have hstep : (if (t.basicColumn i).val < s.proper then priced
            else priced.subtract (t.equation i)) = t.priceStep priced i := by
          rw [priceStep, hcosts i List.mem_cons_self, hobjective]
          split
          · exact (Equation.eliminate_zero _ _).symm
          · exact (Equation.eliminate_one _ _).symm
        rw [List.foldl_cons, List.foldl_cons, hstep]
        refine ih _ hrest fun k hk => ?_
        have hne : i ≠ k := by
          rintro rfl
          exact hi hk
        have hzero : (t.equation i).coefficient (t.basicColumn k) = 0 := h.entry_of_ne hne
        rw [priceStep, Equation.coefficient_eliminate, hzero, mul_zero, sub_zero]
        exact hcosts k (List.mem_cons_of_mem i hk)
  exact hfold _ objective (List.nodup_finRange _) fun _ _ => rfl

theorem IsFormOf.repriced {t t₀ : Tableau ℚ s} (h : t.IsFormOf t₀)
    (objective : Equation ℚ s.columns) : (t.repriced objective).IsFormOf t₀ :=
  ⟨h.solved, h.rowSpace_eq⟩

end Tableau

end Baggage.LinearProgram

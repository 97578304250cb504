import Baggage.LinearProgram.Tableau
import Baggage.Proofs.Arithmetic

/-!
# Baggage.Proofs.LinearProgram.RowSpace

**What a pivot does to the equations of a tableau.** An equation is read as an affine function of a
point, its `Equation.excess`, which is zero where the equation is met. Dividing and eliminating are
then a multiple and a difference of functions, and what a tableau says about its points is the
`Tableau.rowSpace`: all combinations of its equations. A pivot on an entry that differs from zero
keeps the row space (`rowSpace_pivot`), hence also the points that solve the tableau.

The other lemmas give every part of the tableau after a pivot, so that no later proof looks into
`Tableau.pivot`.
-/

namespace Baggage.LinearProgram

namespace Equation

variable {n : Nat}

/-- The coefficient of a column. -/
def coefficient (e : Equation ℚ n) (j : Fin n) : ℚ := e.coefficients.get j

/-- How far the left-hand side exceeds the bound at a point. -/
def excess (e : Equation ℚ n) (z : Fin n → ℚ) : ℚ := ∑ j, e.coefficient j * z j - e.bound

/-! ### An equation is determined by its excess -/

theorem bound_eq_neg_excess (e : Equation ℚ n) : e.bound = -e.excess 0 := by
  simp [excess]

theorem coefficient_eq_excess_sub (e : Equation ℚ n) (j : Fin n) :
    e.coefficient j = e.excess (Pi.single j 1) - e.excess 0 := by
  simp [excess, Pi.single_apply]

/-! ### Dividing and eliminating -/

theorem coefficient_divide (e : Equation ℚ n) (divisor : ℚ) (j : Fin n) :
    (e.divide divisor).coefficient j = e.coefficient j / divisor := by
  unfold divide coefficient
  split
  · next h =>
      have hone : divisor = 1 := by simpa using h
      rw [hone, div_one]
  · simp [Vector.get_eq_getElem]

theorem bound_divide (e : Equation ℚ n) (divisor : ℚ) :
    (e.divide divisor).bound = e.bound / divisor := by
  unfold divide
  split
  · next h =>
      have hone : divisor = 1 := by simpa using h
      rw [hone, div_one]
  · rfl

theorem coefficient_eliminate (e other : Equation ℚ n) (factor : ℚ) (j : Fin n) :
    (e.eliminate other factor).coefficient j
      = e.coefficient j - factor * other.coefficient j := by
  unfold eliminate coefficient
  split
  · next h =>
      have hzero : factor = 0 := by simpa using h
      rw [hzero, zero_mul, sub_zero]
  · simp [Vector.get_eq_getElem]

theorem bound_eliminate (e other : Equation ℚ n) (factor : ℚ) :
    (e.eliminate other factor).bound = e.bound - factor * other.bound := by
  unfold eliminate
  split
  · next h =>
      have hzero : factor = 0 := by simpa using h
      rw [hzero, zero_mul, sub_zero]
  · rfl

theorem eliminate_zero (e other : Equation ℚ n) : e.eliminate other 0 = e := by
  simp [eliminate]

/-- With the factor one, an equation is subtracted as it is. -/
theorem eliminate_one (e other : Equation ℚ n) : e.eliminate other 1 = e.subtract other := by
  simp [eliminate, subtract]

theorem excess_divide (e : Equation ℚ n) (divisor : ℚ) :
    (e.divide divisor).excess = divisor⁻¹ • e.excess := by
  funext z
  simp only [excess, coefficient_divide, bound_divide, Pi.smul_apply, smul_eq_mul, mul_sub,
    Finset.mul_sum]
  congr 1
  · exact Finset.sum_congr rfl fun j _ => by ring
  · ring

theorem excess_eliminate (e other : Equation ℚ n) (factor : ℚ) :
    (e.eliminate other factor).excess = e.excess - factor • other.excess := by
  funext z
  simp only [excess, coefficient_eliminate, bound_eliminate, Pi.sub_apply, Pi.smul_apply,
    smul_eq_mul, mul_sub, sub_mul, Finset.sum_sub_distrib, Finset.mul_sum, mul_assoc]
  ring

/-! ### Where one more column grows -/

theorem excess_add_single (e : Equation ℚ n) (z : Fin n → ℚ) (j : Fin n) (x : ℚ) :
    e.excess (z + Pi.single j x) = e.excess z + e.coefficient j * x := by
  have hsingle : ∑ k, e.coefficient k * (Pi.single j x : Fin n → ℚ) k = e.coefficient j * x := by
    simp [Pi.single_apply]
  simp only [excess, Pi.add_apply, mul_add, Finset.sum_add_distrib, hsingle]
  ring

end Equation

namespace Tableau

variable {s : Shape}

/-- The equation of a row. -/
def equation (t : Tableau ℚ s) (i : Fin s.rows) : Equation ℚ s.columns := t.equations.get i

theorem entry_eq_coefficient (t : Tableau ℚ s) (i : Fin s.rows) (j : Fin s.columns) :
    t.entry i j = (t.equation i).coefficient j := rfl

theorem bound_eq_bound (t : Tableau ℚ s) (i : Fin s.rows) : t.bound i = (t.equation i).bound := rfl

/-- The cost of a column. -/
def cost (t : Tableau ℚ s) (j : Fin s.columns) : ℚ := t.costs.coefficient j

/-! ### The parts of a tableau after a pivot -/

section Pivot

variable (t : Tableau ℚ s) (r : Fin s.rows) (c : Fin s.columns)

theorem equation_pivot_self :
    (t.pivot r c).equation r = (t.equation r).divide (t.entry r c) := by
  simp [equation, pivot, Vector.get_eq_getElem]

theorem equation_pivot_of_ne {i : Fin s.rows} (h : i ≠ r) :
    (t.pivot r c).equation i
      = (t.equation i).eliminate ((t.equation r).divide (t.entry r c)) (t.entry i c) := by
  have hval : i.val ≠ r.val := fun hv => h (Fin.ext hv)
  simp [equation, pivot, entry, Vector.get_eq_getElem, hval]

theorem costs_pivot :
    (t.pivot r c).costs = t.costs.eliminate ((t.equation r).divide (t.entry r c)) (t.cost c) := rfl

theorem basicColumn_pivot_self : (t.pivot r c).basicColumn r = c := by
  simp [basicColumn, pivot]

theorem basicColumn_pivot_of_ne {i : Fin s.rows} (h : i ≠ r) :
    (t.pivot r c).basicColumn i = t.basicColumn i := by
  have hval : r.val ≠ i.val := fun hv => h (Fin.ext hv.symm)
  simp [basicColumn, pivot, hval]

theorem entry_pivot_self (j : Fin s.columns) :
    (t.pivot r c).entry r j = t.entry r j / t.entry r c := by
  rw [entry_eq_coefficient, equation_pivot_self, Equation.coefficient_divide]
  rfl

theorem entry_pivot_of_ne {i : Fin s.rows} (h : i ≠ r) (j : Fin s.columns) :
    (t.pivot r c).entry i j = t.entry i j - t.entry i c * (t.entry r j / t.entry r c) := by
  rw [entry_eq_coefficient, equation_pivot_of_ne t r c h, Equation.coefficient_eliminate,
    Equation.coefficient_divide]
  rfl

theorem bound_pivot_self : (t.pivot r c).bound r = t.bound r / t.entry r c := by
  rw [bound_eq_bound, equation_pivot_self, Equation.bound_divide]
  rfl

theorem bound_pivot_of_ne {i : Fin s.rows} (h : i ≠ r) :
    (t.pivot r c).bound i = t.bound i - t.entry i c * (t.bound r / t.entry r c) := by
  rw [bound_eq_bound, equation_pivot_of_ne t r c h, Equation.bound_eliminate,
    Equation.bound_divide]
  rfl

theorem cost_pivot (j : Fin s.columns) :
    (t.pivot r c).cost j = t.cost j - t.cost c * (t.entry r j / t.entry r c) := by
  rw [cost, costs_pivot, Equation.coefficient_eliminate, Equation.coefficient_divide]
  rfl

end Pivot

/-! ### The row space -/

/-- All combinations of the equations of a tableau. -/
def rowSpace (t : Tableau ℚ s) : Submodule ℚ ((Fin s.columns → ℚ) → ℚ) :=
  Submodule.span ℚ (Set.range fun i => (t.equation i).excess)

/-- A point that meets every equation of a tableau. -/
def Solves (t : Tableau ℚ s) (z : Fin s.columns → ℚ) : Prop :=
  ∀ i, (t.equation i).excess z = 0

theorem excess_mem_rowSpace (t : Tableau ℚ s) (i : Fin s.rows) :
    (t.equation i).excess ∈ t.rowSpace := Submodule.subset_span ⟨i, rfl⟩

/-- A space that holds every equation holds all combinations. -/
theorem rowSpace_le {t : Tableau ℚ s} {space : Submodule ℚ ((Fin s.columns → ℚ) → ℚ)}
    (h : ∀ i, (t.equation i).excess ∈ space) : t.rowSpace ≤ space := by
  refine Submodule.span_le.mpr ?_
  rintro _ ⟨i, rfl⟩
  exact h i

/-- Every combination of the equations vanishes where all equations are met. -/
theorem Solves.eq_zero {t : Tableau ℚ s} {z : Fin s.columns → ℚ} (hz : t.Solves z)
    {f : (Fin s.columns → ℚ) → ℚ} (hf : f ∈ t.rowSpace) : f z = 0 := by
  have hle : t.rowSpace ≤ LinearMap.ker (LinearMap.proj z : ((Fin s.columns → ℚ) → ℚ) →ₗ[ℚ] ℚ) :=
    rowSpace_le hz
  exact hle hf

/-- The points that solve a tableau depend on its row space only. -/
theorem Solves.of_rowSpace_eq {t u : Tableau ℚ s} {z : Fin s.columns → ℚ} (hz : t.Solves z)
    (h : u.rowSpace = t.rowSpace) : u.Solves z :=
  fun i => hz.eq_zero (h ▸ u.excess_mem_rowSpace i)

theorem excess_pivot_self (t : Tableau ℚ s) (r : Fin s.rows) (c : Fin s.columns) :
    ((t.pivot r c).equation r).excess = (t.entry r c)⁻¹ • (t.equation r).excess := by
  rw [equation_pivot_self, Equation.excess_divide]

theorem excess_pivot_of_ne (t : Tableau ℚ s) {r i : Fin s.rows} (c : Fin s.columns) (h : i ≠ r) :
    ((t.pivot r c).equation i).excess
      = (t.equation i).excess - t.entry i c • ((t.pivot r c).equation r).excess := by
  rw [equation_pivot_of_ne t r c h, Equation.excess_eliminate, equation_pivot_self]

/-- **A pivot keeps the row space**, provided that its entry differs from zero. -/
theorem rowSpace_pivot (t : Tableau ℚ s) {r : Fin s.rows} {c : Fin s.columns}
    (hne : t.entry r c ≠ 0) : (t.pivot r c).rowSpace = t.rowSpace := by
  have hnew : ((t.pivot r c).equation r).excess ∈ t.rowSpace := by
    rw [excess_pivot_self]
    exact Submodule.smul_mem _ _ (t.excess_mem_rowSpace r)
  have hpivot := (t.pivot r c).excess_mem_rowSpace
  apply le_antisymm
  · refine rowSpace_le fun i => ?_
    by_cases hi : i = r
    · subst hi
      exact hnew
    · rw [t.excess_pivot_of_ne c hi]
      exact Submodule.sub_mem _ (t.excess_mem_rowSpace i) (Submodule.smul_mem _ _ hnew)
  · -- the old equations are the new ones, with the division and the elimination undone
    refine rowSpace_le fun i => ?_
    by_cases hi : i = r
    · subst hi
      have hback : (t.equation i).excess = t.entry i c • ((t.pivot i c).equation i).excess := by
        rw [excess_pivot_self, smul_smul, mul_inv_cancel₀ hne, one_smul]
      rw [hback]
      exact Submodule.smul_mem _ _ (hpivot i)
    · have hback : (t.equation i).excess = ((t.pivot r c).equation i).excess
          + t.entry i c • ((t.pivot r c).equation r).excess := by
        rw [t.excess_pivot_of_ne c hi, sub_add_cancel]
      rw [hback]
      exact Submodule.add_mem _ (hpivot i) (Submodule.smul_mem _ _ (hpivot r))

end Tableau

end Baggage.LinearProgram

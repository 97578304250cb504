import Baggage.Proofs.LinearProgram.Basis
import Baggage.Proofs.LinearProgram.Feasible

/-!
# Baggage.Proofs.LinearProgram.Start

**The starting tableau**, coefficient by coefficient. No two rows start from the same column
(`startColumn_injective`), so every equation can be solved for the one that it starts from: the
tableau is in solved form (`isSolved_start`), no right-hand side is negative, and the costs of the
problem leave no basic column unpriced.
-/

namespace Baggage.LinearProgram

/-- A sum over all columns, kind by kind. -/
theorem Shape.sum_columns (s : Shape) (f : Fin s.columns → ℚ) :
    ∑ j, f j = ∑ j, f (s.variableColumn j) + ∑ i, f (s.slackColumn i)
      + ∑ k, f (s.artificialColumn k) := by
  rw [Fin.sum_univ_add, Fin.sum_univ_add]
  rfl

@[simp] theorem Shape.val_variableColumn (s : Shape) (j : Fin s.variableCount) :
    (s.variableColumn j).val = j.val := rfl

@[simp] theorem Shape.val_slackColumn (s : Shape) (i : Fin s.rows) :
    (s.slackColumn i).val = s.variableCount + i.val := rfl

@[simp] theorem Shape.val_artificialColumn (s : Shape) (k : Fin s.artificials) :
    (s.artificialColumn k).val = s.proper + k.val := rfl

theorem Shape.variableColumn_injective (s : Shape) : Function.Injective s.variableColumn := by
  intro i k h
  have hval : i.val = k.val := Fin.mk.inj h
  exact Fin.ext hval

theorem Shape.slackColumn_injective (s : Shape) : Function.Injective s.slackColumn := by
  intro i k h
  have hval : s.variableCount + i.val = s.variableCount + k.val := congrArg Fin.val h
  exact Fin.ext (by omega)

theorem Shape.artificialColumn_injective (s : Shape) : Function.Injective s.artificialColumn := by
  intro i k h
  have hval : s.proper + i.val = s.proper + k.val := congrArg Fin.val h
  exact Fin.ext (by omega)

namespace Problem

section Columns

variable {α : Type} [Arithmetic α] (p : Problem α) (i : Fin p.shape.rows)

theorem val_startColumn : (p.startColumn i).val
    = if (p.rows.get i).needsArtificial = true then p.shape.proper + p.artificialsBefore i
      else p.variableCount + i := by
  unfold startColumn
  split <;> rfl

theorem artificialsBefore_succ : p.artificialsBefore (i + 1)
    = p.artificialsBefore i + if (p.rows.get i).needsArtificial = true then 1 else 0 := by
  have hrow : p.rows[i.val] = p.rows.get i := rfl
  unfold artificialsBefore
  rw [List.take_succ_eq_append_getElem i.isLt, List.countP_append, List.countP_singleton, hrow]

end Columns

variable (p : Problem ℚ)

/-- A row of a problem. -/
def row (i : Fin p.shape.rows) : Row ℚ := p.rows.get i

theorem map_row_finRange : (List.finRange p.shape.rows).map p.row = p.rows :=
  List.map_get_finRange p.rows

/-- A quantity of the rows, added up. -/
theorem sum_row (quantity : Row ℚ → ℚ) :
    ∑ i, quantity (p.row i) = (p.rows.map quantity).sum := by
  have hmap : p.rows.map quantity
      = (List.finRange p.shape.rows).map fun i => quantity (p.row i) := by
    nth_rewrite 1 [← p.map_row_finRange]
    exact List.map_map
  rw [Fin.sum_univ_def, hmap]

/-! ### Starting columns -/

theorem artificialsBefore_lt_of_lt {i k : Fin p.shape.rows} (hlt : i < k)
    (hi : (p.row i).needsArtificial = true) : p.artificialsBefore i < p.artificialsBefore k := by
  have hneeded : (p.rows.get i).needsArtificial = true := hi
  have hnext := p.artificialsBefore_succ i
  rw [if_pos hneeded] at hnext
  have hmono : p.artificialsBefore (i + 1) ≤ p.artificialsBefore k :=
    List.Sublist.countP_le (List.take_sublist_take_left hlt)
  omega

theorem startColumn_of_needs {i : Fin p.shape.rows} (h : (p.row i).needsArtificial = true) :
    ∃ k : Fin p.shape.artificials, k.val = p.artificialsBefore i ∧
      p.startColumn i = p.shape.artificialColumn k := by
  refine ⟨⟨p.artificialsBefore i, p.artificialsBefore_lt i h⟩, rfl, ?_⟩
  unfold startColumn
  exact dif_pos h

theorem startColumn_of_not_needs {i : Fin p.shape.rows}
    (h : ¬ (p.row i).needsArtificial = true) : p.startColumn i = p.shape.slackColumn i := by
  unfold startColumn
  exact dif_neg h

/-- A row starts from an artificial column exactly if it needs one. -/
theorem proper_le_startColumn_iff (i : Fin p.shape.rows) :
    p.shape.proper ≤ (p.startColumn i).val ↔ (p.row i).needsArtificial = true := by
  by_cases hi : (p.row i).needsArtificial = true
  · obtain ⟨k, -, hk⟩ := p.startColumn_of_needs hi
    rw [hk, Shape.val_artificialColumn]
    exact iff_of_true (Nat.le_add_right _ _) hi
  · rw [p.startColumn_of_not_needs hi, Shape.val_slackColumn]
    exact iff_of_false (not_le.mpr (Nat.add_lt_add_left i.isLt _)) hi

/-- Only the slack of a row itself is a column that a row starts from. -/
theorem startColumn_eq_slackColumn {i k : Fin p.shape.rows}
    (h : p.startColumn k = p.shape.slackColumn i) :
    k = i ∧ ¬ (p.row k).needsArtificial = true := by
  have hneeds : ¬ (p.row k).needsArtificial = true := by
    rw [← p.proper_le_startColumn_iff, h, Shape.val_slackColumn]
    exact not_le.mpr (Nat.add_lt_add_left i.isLt _)
  rw [p.startColumn_of_not_needs hneeds] at h
  exact ⟨p.shape.slackColumn_injective h, hneeds⟩

/-- No two rows start from the same column. -/
theorem startColumn_injective : Function.Injective p.startColumn := by
  intro i k hik
  by_cases hk : (p.row k).needsArtificial = true
  · have hi : (p.row i).needsArtificial = true := by
      rwa [← p.proper_le_startColumn_iff, hik, p.proper_le_startColumn_iff]
    obtain ⟨a, ha, hia⟩ := p.startColumn_of_needs hi
    obtain ⟨b, hb, hkb⟩ := p.startColumn_of_needs hk
    -- the later one of two such rows has more of them before it
    have hbefore : p.artificialsBefore i = p.artificialsBefore k := by
      rw [← ha, ← hb, p.shape.artificialColumn_injective (hia.symm.trans (hik.trans hkb))]
    rcases lt_trichotomy i k with hlt | heq | hgt
    · exact absurd hbefore (p.artificialsBefore_lt_of_lt hlt hi).ne
    · exact heq
    · exact absurd hbefore (p.artificialsBefore_lt_of_lt hgt hk).ne'
  · rw [p.startColumn_of_not_needs hk] at hik
    exact (p.startColumn_eq_slackColumn hik).1

theorem variableCount_le_startColumn (i : Fin p.shape.rows) :
    p.variableCount ≤ (p.startColumn i).val := by
  by_cases hi : (p.row i).needsArtificial = true
  · exact le_trans (Nat.le_add_right _ _) ((p.proper_le_startColumn_iff i).mpr hi)
  · rw [p.startColumn_of_not_needs hi]
    exact Nat.le_add_right _ _

/-! ### The starting equations -/

theorem coefficient_startEquation (i : Fin p.shape.rows) (j : Fin p.shape.columns) :
    (p.startEquation i).coefficient j =
      if j.val < p.variableCount then (p.row i).turn * (p.row i).coefficients.getD j 0
      else if j = p.shape.slackColumn i then (p.row i).slackCoefficient
      else if j = p.startColumn i then 1
      else 0 := by
  simp [startEquation, Equation.coefficient, Vector.get_eq_getElem, row]

theorem coefficient_startEquation_variable (i : Fin p.shape.rows)
    (j : Fin p.shape.variableCount) :
    (p.startEquation i).coefficient (p.shape.variableColumn j)
      = (p.row i).turn * (p.row i).coefficients.getD j 0 := by
  rw [coefficient_startEquation, Shape.val_variableColumn]
  exact if_pos j.isLt

theorem coefficient_startEquation_slack (i k : Fin p.shape.rows) :
    (p.startEquation i).coefficient (p.shape.slackColumn k)
      = if k = i then (p.row i).slackCoefficient else 0 := by
  have hvariable : ¬ (p.shape.slackColumn k).val < p.variableCount :=
    not_lt.mpr (Nat.le_add_right _ _)
  rw [coefficient_startEquation, if_neg hvariable]
  by_cases hki : k = i
  · rw [hki, if_pos rfl, if_pos rfl]
  · have hslack : p.shape.slackColumn k ≠ p.shape.slackColumn i :=
      p.shape.slackColumn_injective.ne hki
    have hstart : p.shape.slackColumn k ≠ p.startColumn i :=
      fun h => hki (p.startColumn_eq_slackColumn h.symm).1.symm
    rw [if_neg hslack, if_neg hstart, if_neg hki]

theorem coefficient_startEquation_artificial (i : Fin p.shape.rows)
    (k : Fin p.shape.artificials) :
    (p.startEquation i).coefficient (p.shape.artificialColumn k)
      = if p.shape.artificialColumn k = p.startColumn i then 1 else 0 := by
  have hvariable : ¬ (p.shape.artificialColumn k).val < p.variableCount :=
    not_lt.mpr (le_trans (Nat.le_add_right _ _) (Nat.le_add_right _ _))
  have hslack : p.shape.artificialColumn k ≠ p.shape.slackColumn i := by
    intro h
    have hval : p.shape.proper + k.val = p.shape.variableCount + i.val := congrArg Fin.val h
    have hlt : p.shape.variableCount + i.val < p.shape.proper := Nat.add_lt_add_left i.isLt _
    omega
  rw [coefficient_startEquation, if_neg hvariable, if_neg hslack]

theorem bound_startEquation (i : Fin p.shape.rows) :
    (p.startEquation i).bound = (p.row i).turn * (p.row i).bound := rfl

theorem coefficient_startCosts (j : Fin p.shape.columns) :
    p.startCosts.coefficient j =
      if j.val < p.variableCount then p.sign * p.objective.getD j 0 else 0 := by
  simp [startCosts, Equation.coefficient, Vector.get_eq_getElem, sign]

theorem coefficient_startCosts_variable (j : Fin p.shape.variableCount) :
    p.startCosts.coefficient (p.shape.variableColumn j) = p.sign * p.objective.getD j 0 := by
  rw [coefficient_startCosts, Shape.val_variableColumn]
  exact if_pos j.isLt

theorem coefficient_startCosts_of_le {j : Fin p.shape.columns} (h : p.variableCount ≤ j.val) :
    p.startCosts.coefficient j = 0 := by
  rw [coefficient_startCosts]
  exact if_neg (not_lt.mpr h)

theorem bound_startCosts : p.startCosts.bound = 0 := rfl

theorem coefficient_artificialCosts (j : Fin p.shape.columns) :
    p.artificialCosts.coefficient j = if j.val < p.shape.proper then 0 else 1 := by
  simp [artificialCosts, Equation.coefficient, Vector.get_eq_getElem]

theorem bound_artificialCosts : p.artificialCosts.bound = 0 := rfl

/-! ### The starting tableau -/

theorem basicColumn_start (i : Fin p.shape.rows) : p.start.basicColumn i = p.startColumn i := by
  simp [start, Tableau.basicColumn]

theorem equation_start (i : Fin p.shape.rows) : p.start.equation i = p.startEquation i := by
  simp [start, Tableau.equation, Vector.get_eq_getElem]

/-- **The starting tableau is in solved form.** -/
theorem isSolved_start : p.start.IsSolved := by
  intro i k
  have hvariable : ¬ (p.startColumn k).val < p.variableCount :=
    not_lt.mpr (p.variableCount_le_startColumn k)
  rw [Tableau.entry_eq_coefficient, equation_start, basicColumn_start, coefficient_startEquation,
    if_neg hvariable]
  by_cases hslack : p.startColumn k = p.shape.slackColumn i
  · obtain ⟨rfl, hneeds⟩ := p.startColumn_eq_slackColumn hslack
    rw [if_pos hslack, if_pos rfl, Row.slackCoefficient_of_not_needs hneeds]
  · rw [if_neg hslack]
    by_cases hik : i = k
    · subst hik
      rw [if_pos rfl, if_pos rfl]
    · rw [if_neg (p.startColumn_injective.ne (Ne.symm hik)), if_neg hik]

theorem isFeasible_start : ∀ i, 0 ≤ p.start.bound i := by
  intro i
  rw [Tableau.bound_eq_bound, equation_start]
  exact (p.row i).turn_mul_bound_nonneg

/-- The columns that the starting tableau begins with cost nothing. -/
theorem prices_start : p.start.Prices p.startCosts := by
  constructor
  · intro k
    rw [Tableau.cost, basicColumn_start]
    exact p.coefficient_startCosts_of_le (p.variableCount_le_startColumn k)
  · show p.startCosts.excess - p.startCosts.excess ∈ _
    rw [sub_self]
    exact Submodule.zero_mem _

end Problem

end Baggage.LinearProgram

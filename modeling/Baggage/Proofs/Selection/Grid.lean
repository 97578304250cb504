import Baggage.Proofs.Arithmetic
import Baggage.Selection.Knapsack

/-!
# Baggage.Proofs.Selection.Grid

**One sweep over the table.** A sweep changes the cells in place, from the last one down. A cell is
improved from one further down, which the sweep has not reached yet (`improvement?_set`), so the
result is as if every cell had been improved from the table before the sweep (`sweep_spec`).

`held_add` and `marked_add` say the same in terms of pieces and steps instead of cells. They are all
that later proofs know of the table.
-/

namespace Baggage.Selection.Grid

section Sweep

variable {α : Type} [Arithmetic α] {g : Grid} {steps : ℕ} {value : α}

/-! ### Cells in place -/

/-- An improvement is read off the cell itself and cells below it. -/
theorem improvement?_congr {best best' : Vector α g.layer} {cell : ℕ} (inside : cell < g.layer)
    (h : ∀ (j : ℕ) (hj : j ≤ cell), best[j] = best'[j]) :
    g.improvement? steps value best cell inside = g.improvement? steps value best' cell inside := by
  unfold improvement?
  rw [h cell le_rfl, h (cell - g.width - steps) (by omega)]

/-- The cells that a sweep has passed, or has not reached yet, do not matter to the ones below. -/
theorem improvement?_set {best : Vector α g.layer} {cell j : ℕ} (inside : cell < g.layer)
    (hj : j < cell) (better : α) :
    g.improvement? steps value (best.set cell better) j (hj.trans inside)
      = g.improvement? steps value best j (hj.trans inside) := by
  refine improvement?_congr _ fun i hi => ?_
  rw [Vector.getElem_set_ne _ _ (by omega)]

theorem sweep_succ_of_none {cell : ℕ} {inside : cell < g.layer} {best : Vector α g.layer}
    (h : g.improvement? steps value best cell inside = none) (marks : Vector Bool g.layer) :
    g.sweep steps value (cell + 1) inside best marks
      = g.sweep steps value cell inside.le best marks := by
  rw [sweep, h]

theorem sweep_succ_of_some {cell : ℕ} {inside : cell < g.layer} {best : Vector α g.layer}
    {better : α} (h : g.improvement? steps value best cell inside = some better)
    (marks : Vector Bool g.layer) :
    g.sweep steps value (cell + 1) inside best marks
      = g.sweep steps value cell inside.le (best.set cell better) (marks.set cell true) := by
  rw [sweep, h]

/-- **A sweep improves the cells below its start** from the table as it was, and no others. -/
theorem sweep_spec (cells : ℕ) (hcells : cells ≤ g.layer) (best : Vector α g.layer)
    (marks : Vector Bool g.layer) (j : ℕ) (hj : j < g.layer) :
    (g.sweep steps value cells hcells best marks).1[j]
        = (if j < cells then g.improvement? steps value best j hj else none).getD best[j] ∧
      (g.sweep steps value cells hcells best marks).2[j]
        = ((if j < cells then g.improvement? steps value best j hj else none).isSome
          || marks[j]) := by
  -- on the cells still to come; those passed are in the table that the induction hypothesis gets
  induction cells generalizing best marks with
  | zero => simp [sweep]
  | succ cell ih =>
      rcases Option.eq_none_or_eq_some (g.improvement? steps value best cell hcells) with
        hnone | ⟨better, hsome⟩
      · -- the cell stays as it is, and so does the table for the cells below
        rw [sweep_succ_of_none hnone, (ih _ best marks).1, (ih _ best marks).2]
        rcases Nat.lt_trichotomy j cell with hlt | rfl | hgt
        · simp [hlt, hlt.trans (Nat.lt_succ_self cell)]
        · simp [hnone]
        · simp [Nat.not_lt.mpr hgt.le, Nat.not_lt.mpr (Nat.succ_le_of_lt hgt)]
      · rw [sweep_succ_of_some hsome, (ih _ _ _).1, (ih _ _ _).2]
        rcases Nat.lt_trichotomy j cell with hlt | rfl | hgt
        · rw [improvement?_set hcells hlt, Vector.getElem_set_ne _ _ (by omega),
            Vector.getElem_set_ne _ _ (by omega)]
          simp [hlt, hlt.trans (Nat.lt_succ_self cell)]
        · simp [hsome]
        · rw [Vector.getElem_set_ne _ _ (by omega), Vector.getElem_set_ne _ _ (by omega)]
          simp [Nat.not_lt.mpr hgt.le, Nat.not_lt.mpr (Nat.succ_le_of_lt hgt)]

end Sweep

/-! ### Pieces and steps -/

section Cells

variable {g : Grid} {pieces steps : ℕ}

theorem cell_lt_layer (hpieces : pieces ≤ g.pieces) (hsteps : steps ≤ g.capacity) :
    g.cell pieces steps < g.layer := by
  have hrow : pieces * g.width ≤ g.pieces * g.width := Nat.mul_le_mul_right _ hpieces
  unfold cell layer
  rw [Nat.add_mul, Nat.one_mul]
  have hwidth : g.width = g.capacity + 1 := rfl
  omega

theorem width_le_cell_iff (hsteps : steps ≤ g.capacity) :
    g.width ≤ g.cell pieces steps ↔ 0 < pieces := by
  have hwidth : g.width = g.capacity + 1 := rfl
  unfold cell
  cases pieces with
  | zero => omega
  | succ pieces =>
      rw [Nat.succ_mul]
      omega

theorem cell_mod_width (hsteps : steps ≤ g.capacity) : g.cell pieces steps % g.width = steps := by
  have hlt : steps < g.width := Nat.lt_succ_of_le hsteps
  rw [cell, Nat.mul_add_mod', Nat.mod_eq_of_lt hlt]

/-- Next to one more piece there is room for one piece less, in as many steps less. -/
theorem cell_sub (hpieces : 0 < pieces) {taken : ℕ} (htaken : taken ≤ steps) :
    g.cell pieces steps - g.width - taken = g.cell (pieces - 1) (steps - taken) := by
  obtain ⟨pieces, rfl⟩ := Nat.exists_eq_succ_of_ne_zero hpieces.ne'
  unfold cell
  rw [Nat.succ_mul, Nat.succ_sub_one]
  omega

end Cells

section Held

variable {g : Grid} {pieces steps : ℕ}

/-- The value that a cell holds. -/
def held (g : Grid) (best : Vector ℚ g.layer) (pieces steps : ℕ) : ℚ :=
  best[g.cell pieces steps]?.getD 0

/-- Whether a cell is marked. -/
def marked (g : Grid) (marks : Vector Bool g.layer) (pieces steps : ℕ) : Bool :=
  marks[g.cell pieces steps]?.getD false

theorem held_eq (best : Vector ℚ g.layer) (hcell : g.cell pieces steps < g.layer) :
    g.held best pieces steps = best[g.cell pieces steps] := by
  rw [held, Vector.getElem?_eq_getElem hcell, Option.getD_some]

theorem marked_eq (marks : Vector Bool g.layer) (hcell : g.cell pieces steps < g.layer) :
    g.marked marks pieces steps = marks[g.cell pieces steps] := by
  rw [marked, Vector.getElem?_eq_getElem hcell, Option.getD_some]

theorem held_replicate (hpieces : pieces ≤ g.pieces) (hsteps : steps ≤ g.capacity) :
    g.held (Vector.replicate g.layer 0) pieces steps = 0 := by
  rw [held_eq _ (cell_lt_layer hpieces hsteps), Vector.getElem_replicate]

/-- Whether a cell is worth more with a piece than without it. -/
def Improves (g : Grid) (taken : ℕ) (value : ℚ) (best : Vector ℚ g.layer) (pieces steps : ℕ) :
    Prop :=
  0 < pieces ∧ taken ≤ steps ∧
    g.held best pieces steps < g.held best (pieces - 1) (steps - taken) + value

variable (taken : ℕ) (value : ℚ) (best : Vector ℚ g.layer)

theorem improvement?_cell (hpieces : pieces ≤ g.pieces) (hsteps : steps ≤ g.capacity)
    (hcell : g.cell pieces steps < g.layer) :
    (g.Improves taken value best pieces steps →
      g.improvement? taken value best (g.cell pieces steps) hcell
        = some (g.held best (pieces - 1) (steps - taken) + value)) ∧
    (¬ g.Improves taken value best pieces steps →
      g.improvement? taken value best (g.cell pieces steps) hcell = none) := by
  unfold improvement? Improves
  simp only [Bool.and_eq_true, decide_eq_true_eq, width_le_cell_iff hsteps, cell_mod_width hsteps]
  by_cases hroom : 0 < pieces ∧ taken ≤ steps
  · have hbefore : g.cell (pieces - 1) (steps - taken) < g.layer :=
      cell_lt_layer ((Nat.sub_le _ _).trans hpieces) ((Nat.sub_le _ _).trans hsteps)
    have hcandidate : best[g.cell pieces steps - g.width - taken] + value
        = g.held best (pieces - 1) (steps - taken) + value := by
      rw [held_eq _ hbefore]
      simp only [cell_sub hroom.1 hroom.2]
    simp [hroom, hcandidate, held_eq best hcell]
  · simp [hroom]
    tauto

variable {taken value best}

/-- **The values after one more piece.** -/
theorem held_add (hpieces : pieces ≤ g.pieces) (hsteps : steps ≤ g.capacity) :
    (g.Improves taken value best pieces steps →
      g.held (g.add taken value best).1 pieces steps
        = g.held best (pieces - 1) (steps - taken) + value) ∧
    (¬ g.Improves taken value best pieces steps →
      g.held (g.add taken value best).1 pieces steps = g.held best pieces steps) := by
  have hcell := cell_lt_layer hpieces hsteps
  obtain ⟨hsome, hnone⟩ := improvement?_cell taken value best hpieces hsteps hcell
  rw [held_eq _ hcell, held_eq _ hcell, add, (sweep_spec _ _ _ _ _ hcell).1, if_pos hcell]
  exact ⟨fun h => by rw [hsome h, Option.getD_some], fun h => by rw [hnone h, Option.getD_none]⟩

/-- **The marks of one more piece** are on the cells that it improves. -/
theorem marked_add (hpieces : pieces ≤ g.pieces) (hsteps : steps ≤ g.capacity) :
    g.marked (g.add taken value best).2 pieces steps = true
      ↔ g.Improves taken value best pieces steps := by
  have hcell := cell_lt_layer hpieces hsteps
  obtain ⟨hsome, hnone⟩ := improvement?_cell taken value best hpieces hsteps hcell
  rw [marked_eq _ hcell, add, (sweep_spec _ _ _ _ _ hcell).2, if_pos hcell,
    Vector.getElem_replicate, Bool.or_false]
  by_cases h : g.Improves taken value best pieces steps
  · simp [hsome h, h]
  · simp [hnone h, h]

end Held

end Baggage.Selection.Grid

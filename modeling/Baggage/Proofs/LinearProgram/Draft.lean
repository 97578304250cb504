import Baggage.Proofs.LinearProgram.Sheet
import Baggage.Proofs.LinearProgram.Start

/-!
# Baggage.Proofs.LinearProgram.Draft

**The starting sheet, cell by cell.** `Problem.build?` writes the starting sheet of a problem as a
machine does: into a table of zeros that was laid out before, one row after the other, with a
counter for the next artificial column. Every place that is written to is checked.

`Problem.draft` says what has been written after so many rows, and `Problem.writeRow?_draft` that
one row more leads from one draft to the next: the counter has moved on by as many columns as rows
before needed one, which are never more than the table was laid out for. All that is asked of a
problem is that each row has one coefficient for each variable (`Problem.build?_eq_some`).
-/

namespace Baggage.LinearProgram

open Checked

variable {α : Type} [Arithmetic α]

/-! ### The starting sheet -/

/-- Writes the multiples of some numbers at the front of a row. -/
def writeMultiples? (factor : α) (numbers : List α) (row : List α) : Option (List α) :=
  numbers.zipIdx.foldlM (fun row (x, j) => write? row j (factor * x)) row

/-- A starting sheet, as far as it has been written. -/
structure Draft (α : Type) where
  /-- The rows, of zeros where they have not been written. -/
  rows : List (List α)
  /-- The basic columns, zero where they are not known. -/
  basis : List ℕ
  /-- The dual columns of the rows that have been written, and their factors. -/
  duals : List (ℕ × α)
  /-- The next artificial column. -/
  artificial : ℕ

namespace Problem

variable (p : Problem α)

/-- Writes the slack and the artificial column of a row. Beside the row, the result has its basic
column, its dual column with the factor, and the next artificial column. -/
def writeUnits? (source : Row α) (i artificial : ℕ) (row : List α) :
    Option (List α × ℕ × (ℕ × α) × ℕ) := do
  let slack := p.variableCount + i
  match source.turnedRelation with
  | .atMost => some (← write? row slack Arithmetic.one, slack, (slack, source.turn), artificial)
  | .atLeast =>
    let row ← write? row slack (-Arithmetic.one)
    some (← write? row artificial Arithmetic.one, artificial, (slack, -source.turn), artificial + 1)
  | .equal =>
    some (← write? row artificial Arithmetic.one, artificial, (artificial, source.turn),
      artificial + 1)

/-- Writes a row of the problem to the sheet. -/
def writeRow? (boundColumn : ℕ) (draft : Draft α) (item : Row α × ℕ) : Option (Draft α) := do
  let (source, i) := item
  let row ← writeMultiples? source.turn source.coefficients (← draft.rows[i + 1]?)
  let row ← write? row boundColumn (source.turn * source.bound)
  let (row, basic, dual, artificial) ← p.writeUnits? source i draft.artificial row
  if basic < boundColumn then
    some ⟨← write? draft.rows (i + 1) row, ← write? draft.basis i basic, draft.duals ++ [dual],
      artificial⟩
  else none

/-- Writes the starting sheet of a problem, and the dual column of each row. -/
def build? : Option (Sheet α × List (ℕ × α)) := do
  let columns := p.variableCount + p.rows.length + p.rows.countP Row.needsArtificial + 1
  let rows := List.replicate (p.rows.length + 1) (List.replicate columns Arithmetic.zero)
  let sign := if p.maximize then -Arithmetic.one else Arithmetic.one
  let costs ← writeMultiples? sign p.objective (← rows[0]?)
  let draft ← p.rows.zipIdx.foldlM (p.writeRow? (← sub? columns 1))
    ⟨← write? rows 0 costs, List.replicate p.rows.length 0, [], p.variableCount + p.rows.length⟩
  some (⟨draft.rows, draft.basis⟩, draft.duals)

end Problem

/-! ### The starting sheet is that of the starting tableau -/

theorem writeMultiples?_eq_some {numbers row : List α} (h : numbers.length ≤ row.length)
    (factor : α) : writeMultiples? factor numbers row
      = some (numbers.map (factor * ·) ++ row.drop numbers.length) := by
  have hloop : writeMultiples? factor numbers row
      = some ((numbers.map (factor * ·)).take numbers.length ++ row.drop numbers.length) :=
    foldlM_zipIdx_eq_some (fun k => (numbers.map (factor * ·)).take k ++ row.drop k) fun i hi => by
      have hnew : i < (numbers.map (factor * ·)).length := by simpa using hi
      have hold : i < row.length := hi.trans_le h
      simpa using write?_overwritten _ _ hnew hold
  rw [hloop, List.take_of_length_le (by simp)]

/-- A row of zeros, of which some cells have been written. -/
theorem map_range_eq_set {numbers : List α} {columns slack start : ℕ}
    (hslack : numbers.length ≤ slack) (hslack' : slack < columns) (hstart : numbers.length ≤ start)
    (hstart' : start < columns) {c : α} (hc : slack = start → c = Arithmetic.one) (bound : α) :
    ((List.range columns).map fun j =>
        if j < numbers.length then numbers.getD j Arithmetic.zero
        else if j = slack then c else if j = start then Arithmetic.one else Arithmetic.zero)
      ++ [bound]
      = (((numbers ++ List.replicate (columns + 1 - numbers.length) Arithmetic.zero).set columns
          bound).set slack c).set start Arithmetic.one := by
  refine List.ext_getElem (by simp; omega) fun j hj _ => ?_
  simp only [List.length_append, List.length_map, List.length_range, List.length_singleton] at hj
  simp only [List.getElem_set, List.getElem_append, List.length_map, List.length_range,
    List.getElem_map, List.getElem_range, List.getElem_replicate, List.getElem_singleton]
  by_cases hbound : j = columns
  · subst hbound
    simp [hslack'.ne, hstart'.ne]
  · have hlt : j < columns := by omega
    by_cases hnumber : j < numbers.length
    · have h₁ : slack ≠ j := by omega
      have h₂ : start ≠ j := by omega
      simp [hlt, hnumber, h₁, h₂, Ne.symm hbound]
    · rcases eq_or_ne j start with rfl | hne
      · rcases eq_or_ne j slack with rfl | h
        · simp [hlt, hnumber, hc rfl]
        · simp [hlt, hnumber, h]
      · simp [hlt, hnumber, hne.symm, hne, Ne.symm hbound, eq_comm]

namespace Problem

variable (p : Problem α)

/-- A row of zeros of the starting sheet. -/
def zeroCells : List α := List.replicate (p.shape.columns + 1) Arithmetic.zero

theorem variableCount_le_columns : p.variableCount ≤ p.shape.columns :=
  (Nat.le_add_right _ _).trans (Nat.le_add_right _ _)

/-- The coefficients of a row are the first that is written to it. -/
theorem writeMultiples?_zeroCells {numbers : List α} (h : numbers.length = p.variableCount)
    (factor : α) : writeMultiples? factor numbers p.zeroCells
      = some (numbers.map (factor * ·)
        ++ List.replicate (p.shape.columns + 1 - p.variableCount) Arithmetic.zero) := by
  have hle : numbers.length ≤ p.zeroCells.length := by
    rw [h, zeroCells, List.length_replicate]
    exact Nat.le_succ_of_le p.variableCount_le_columns
  rw [writeMultiples?_eq_some hle, h, zeroCells, List.drop_replicate]

/-- The coefficients and the bound of a row, as they are written to the starting sheet. -/
def sourceCells (source : Row α) : List α :=
  (source.coefficients.map (source.turn * ·)
    ++ List.replicate (p.shape.columns + 1 - p.variableCount) Arithmetic.zero).set
      p.shape.columns (source.turn * source.bound)

/-- A row of the starting sheet, by what is written to it. -/
theorem cells_startEquation (i : Fin p.shape.rows) {source : Row α}
    (hsource : p.rows.get i = source) (h : source.coefficients.length = p.variableCount) :
    (p.startEquation i).cells = ((p.sourceCells source).set (p.variableCount + i)
      source.slackCoefficient).set (p.startColumn i) Arithmetic.one := by
  have hstart := p.val_startColumn i
  rw [hsource] at hstart
  have hproper : p.shape.proper = p.variableCount + p.shape.rows := rfl
  have hi := i.isLt
  have hcells : (p.startEquation i).cells = ((List.range p.shape.columns).map fun j =>
      if j < p.variableCount then (source.coefficients.map (source.turn * ·)).getD j Arithmetic.zero
      else if j = p.variableCount + i then source.slackCoefficient
      else if j = p.startColumn i then Arithmetic.one else Arithmetic.zero)
      ++ [source.turn * source.bound] := by
    have hslack : (p.shape.slackColumn i).val = p.variableCount + i := rfl
    rw [Equation.cells]
    congr 1
    · refine List.ext_getElem (by simp) fun j hj _ => ?_
      have hlt : j < p.shape.columns := by simpa using hj
      simp only [startEquation, hsource, Vector.toList_ofFn, List.getElem_ofFn, List.getElem_map,
        List.getElem_range, Fin.ext_iff, hslack]
      by_cases hnumber : j < p.variableCount
      · simp [hnumber, h]
      · simp only [hnumber, if_false]
    · rw [← hsource]
      rfl
  have hlength : (source.coefficients.map (source.turn * ·)).length = p.variableCount := by simpa
  rw [hcells, sourceCells, ← hlength]
  refine map_range_eq_set ?_ ?_ ?_ (p.startColumn i).isLt ?_ _
  · simp
  · rw [hlength]; exact (p.shape.slackColumn i).isLt
  · rw [hlength, hstart]; split <;> omega
  · intro heq
    have hneeds : source.needsArtificial = false := by
      by_contra hneeds
      rw [hlength, hstart, if_pos (by simpa using hneeds)] at heq
      omega
    have hrel : source.turnedRelation = .atMost := by simpa [Row.needsArtificial] using hneeds
    simp [Row.slackCoefficient, hrel]

theorem length_sourceCells {source : Row α} (h : source.coefficients.length = p.variableCount) :
    (p.sourceCells source).length = p.shape.columns + 1 := by
  simp [sourceCells, h, p.variableCount_le_columns, Nat.le_succ_of_le]

/-- The dual column of a row and its factor, as they stand beside a sheet. -/
def dualCell (i : Fin p.shape.rows) : ℕ × α := ((p.dual i).1.val, (p.dual i).2)

/-- The dual columns of all rows. -/
def duals : List (ℕ × α) := (List.finRange p.rows.length).map p.dualCell

/-- **The slack and the artificial column of a row** are written where the tableau has them, and the
counter moves on if the row used the artificial column. -/
theorem writeUnits?_eq_some (i : Fin p.shape.rows) {source : Row α}
    (hsource : p.rows.get i = source) (h : source.coefficients.length = p.variableCount) :
    p.writeUnits? source i (p.shape.proper + p.artificialsBefore i) (p.sourceCells source)
      = some ((p.startEquation i).cells, (p.startColumn i).val, p.dualCell i,
          p.shape.proper + p.artificialsBefore (i + 1)) := by
  have hcells := p.cells_startEquation i hsource h
  have hstart := p.val_startColumn i
  have hnext := p.artificialsBefore_succ i
  have hlength := p.length_sourceCells h
  have hslack : p.variableCount + i < (p.sourceCells source).length :=
    (p.shape.slackColumn i).isLt.trans (hlength ▸ Nat.lt_succ_self _)
  have hcolumn : (p.startColumn i).val < (p.sourceCells source).length :=
    (p.startColumn i).isLt.trans (hlength ▸ Nat.lt_succ_self _)
  have hdual : p.dualCell i = match source.turnedRelation with
      | .atMost => (p.variableCount + i, source.turn)
      | .atLeast => (p.variableCount + i, -source.turn)
      | .equal => ((p.startColumn i).val, source.turn) := by
    rw [dualCell, dual, hsource]
    dsimp only
    cases source.turnedRelation <;> rfl
  rw [hsource] at hstart hnext
  unfold writeUnits?
  cases hrel : source.turnedRelation with
  | atMost =>
      have hneeds : ¬ source.needsArtificial = true := by simp [Row.needsArtificial, hrel]
      have hone : source.slackCoefficient = Arithmetic.one := by simp [Row.slackCoefficient, hrel]
      rw [if_neg hneeds] at hstart hnext
      rw [hrel] at hdual
      simp [write?_of_lt hslack, hcells, hstart, hone, hdual, hnext]
  | atLeast =>
      have hneeds : source.needsArtificial = true := by simp [Row.needsArtificial, hrel]
      have hminus : source.slackCoefficient = -Arithmetic.one := by
        simp [Row.slackCoefficient, hrel]
      rw [if_pos hneeds] at hstart hnext
      rw [hrel] at hdual
      rw [hstart] at hcolumn hcells
      have hcolumn' : p.shape.proper + p.artificialsBefore i
          < ((p.sourceCells source).set (p.variableCount + i) (-Arithmetic.one)).length := by
        simpa using hcolumn
      simp only [write?_of_lt hslack, write?_of_lt hcolumn', hcells, hstart, hminus, hdual, hnext,
        Option.bind_eq_bind, Option.bind_some]
      rfl
  | equal =>
      have hneeds : source.needsArtificial = true := by simp [Row.needsArtificial, hrel]
      have hzero : source.slackCoefficient = Arithmetic.zero := by simp [Row.slackCoefficient, hrel]
      rw [if_pos hneeds] at hstart hnext
      rw [hrel] at hdual
      rw [hstart] at hcolumn hcells hdual
      have hself : (p.sourceCells source).set (p.variableCount + i) Arithmetic.zero
          = p.sourceCells source := by
        have hcell : (p.sourceCells source)[p.variableCount + i.val] = Arithmetic.zero := by
          have hne : p.shape.columns ≠ p.variableCount + i := (p.shape.slackColumn i).isLt.ne'
          simp [sourceCells, List.getElem_append_right, h, hne]
        rw [← hcell, List.set_getElem_self]
      simp only [write?_of_lt hcolumn, hcells, hstart, hzero, hself, hdual, hnext,
        Option.bind_eq_bind, Option.bind_some]
      rfl

/-- The starting sheet when so many rows of the problem have been written. -/
def draft (k : ℕ) : Draft α :=
  { rows := p.start.sheet.rows.take (k + 1)
      ++ (List.replicate (p.shape.rows + 1) p.zeroCells).drop (k + 1)
    basis := p.start.sheet.basis.take k ++ (List.replicate p.shape.rows 0).drop k
    duals := p.duals.take k
    artificial := p.shape.proper + p.artificialsBefore k }

theorem getElem?_start_rows (i : Fin p.shape.rows) :
    p.start.sheet.rows[i.val + 1]? = some (p.startEquation i).cells := by
  rw [Tableau.getElem?_sheet_rows]
  simp [start, Vector.get_eq_getElem]

theorem getElem?_start_basis (i : Fin p.shape.rows) :
    p.start.sheet.basis[i.val]? = some (p.startColumn i).val := by
  rw [Tableau.getElem?_sheet_basis]
  simp [start, Tableau.basicColumn]

theorem rows_draft : (p.draft p.rows.length).rows = p.start.sheet.rows := by
  have hlength : p.start.sheet.rows.length = p.rows.length + 1 := p.start.length_sheet_rows
  simp [draft, List.take_of_length_le hlength.le]

theorem basis_draft : (p.draft p.rows.length).basis = p.start.sheet.basis := by
  simp [draft, Tableau.sheet]

theorem duals_draft : (p.draft p.rows.length).duals = p.duals := by simp [draft, duals]

/-- **One row is written** where it belongs, and the counter moves on to the next artificial column
if the row used one. -/
theorem writeRow?_draft (i : Fin p.shape.rows)
    (h : (p.rows.get i).coefficients.length = p.variableCount) :
    p.writeRow? p.shape.columns (p.draft i) (p.rows.get i, i.val) = some (p.draft (i + 1)) := by
  obtain ⟨hrow, hcells⟩ := List.getElem?_eq_some_iff.mp (p.getElem?_start_rows i)
  obtain ⟨hplace, hbasic⟩ := List.getElem?_eq_some_iff.mp (p.getElem?_start_basis i)
  have hrows : write? (p.draft i).rows (i + 1) (p.startEquation i).cells
      = some (p.draft (i + 1)).rows := by
    rw [← hcells]
    exact write?_overwritten _ _ hrow (by simp)
  have hbasis : write? (p.draft i).basis i (p.startColumn i).val
      = some (p.draft (i + 1)).basis := by
    rw [← hbasic]
    exact write?_overwritten _ _ hplace (by simp)
  have hduals : (p.draft i).duals ++ [p.dualCell i] = (p.draft (i + 1)).duals := by
    have hlt : i.val < p.duals.length := by simp [duals]
    rw [draft, draft, List.take_succ_eq_append_getElem hlt]
    simp [duals]
  have hzeros : (p.draft i).rows[i.val + 1]? = some p.zeroCells := by
    have htake : (p.start.sheet.rows.take (i + 1)).length = i + 1 := List.length_take_of_le hrow.le
    rw [draft, List.getElem?_append_right htake.le, htake]
    simp
  have hwritten : write? ((p.rows.get i).coefficients.map ((p.rows.get i).turn * ·)
      ++ List.replicate (p.shape.columns + 1 - p.variableCount) Arithmetic.zero)
      p.shape.columns ((p.rows.get i).turn * (p.rows.get i).bound)
      = some (p.sourceCells (p.rows.get i)) := by
    have hlength := p.length_sourceCells h
    rw [sourceCells, List.length_set] at hlength
    exact write?_of_lt ((Nat.lt_succ_self _).trans_eq hlength.symm) _
  have hartificial : (p.draft i).artificial = p.shape.proper + p.artificialsBefore i := rfl
  simp only [writeRow?, hzeros, p.writeMultiples?_zeroCells h, hwritten, hartificial,
    p.writeUnits?_eq_some i rfl h, (p.startColumn i).isLt, if_true, hrows, hbasis, hduals,
    Option.bind_eq_bind, Option.bind_some]
  rfl

theorem cells_startCosts : p.startCosts.cells
    = p.objective.map ((if p.maximize then -Arithmetic.one else Arithmetic.one) * ·)
      ++ List.replicate (p.shape.columns + 1 - p.variableCount) Arithmetic.zero := by
  have hcount : p.objective.length = p.variableCount := rfl
  have hle := p.variableCount_le_columns
  refine List.ext_getElem (by simp [hcount]; omega) fun j hj _ => ?_
  rw [Equation.length_cells] at hj
  unfold Equation.cells startCosts
  simp only [Vector.toList_ofFn, List.getElem_append, List.length_ofFn, List.getElem_ofFn,
    List.length_map, hcount, List.getElem_map, List.getElem_replicate, List.getElem_singleton]
  by_cases hnumber : j < p.variableCount
  · simp [hnumber, hnumber.trans_le hle, hcount]
  · simp [hnumber]

/-- **The starting sheet is built** without a fault, if each row has one coefficient for each
variable. -/
theorem build?_eq_some (h : ∀ row ∈ p.rows, row.coefficients.length = p.variableCount) :
    p.build? = some (p.start.sheet, p.duals) := by
  have hloop : p.rows.zipIdx.foldlM (p.writeRow? p.shape.columns) (p.draft 0)
      = some (p.draft p.rows.length) :=
    foldlM_zipIdx_eq_some p.draft fun i hi =>
      p.writeRow?_draft ⟨i, hi⟩ (h _ (List.get_mem p.rows ⟨i, hi⟩))
  have hcosts : writeMultiples? (if p.maximize then -Arithmetic.one else Arithmetic.one) p.objective
      p.zeroCells = some p.startCosts.cells := by
    rw [p.writeMultiples?_zeroCells rfl, cells_startCosts]
  have hwrite : write? (List.replicate (p.rows.length + 1) p.zeroCells) 0 p.startCosts.cells
      = some (p.draft 0).rows :=
    write?_overwritten p.start.sheet.rows (List.replicate (p.rows.length + 1) p.zeroCells)
      (List.getElem?_eq_some_iff.mp p.start.getElem?_sheet_costs).1 (by simp)
  have hfirst : (⟨(p.draft 0).rows, List.replicate p.rows.length 0, [],
      p.variableCount + p.rows.length⟩ : Draft α) = p.draft 0 := rfl
  have hzeros : List.replicate
      (p.variableCount + p.rows.length + p.rows.countP Row.needsArtificial + 1)
      (Arithmetic.zero : α) = p.zeroCells := rfl
  have hzero : (List.replicate (p.rows.length + 1) p.zeroCells)[0]? = some p.zeroCells := rfl
  unfold build?
  dsimp only
  rw [hzeros, hzero, sub?_add_right]
  simp only [hcosts, hwrite, hfirst, hloop, rows_draft, basis_draft, duals_draft,
    Option.bind_eq_bind, Option.bind_some]

end Problem

end Baggage.LinearProgram

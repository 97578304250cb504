import Baggage.LinearProgram.Solver
import Baggage.Proofs.Checked

/-!
# Baggage.Proofs.LinearProgram.Sheet

**The tableau as a sheet of numbers.** The size of a `Tableau` is part of its type, and a row or a
column is a number below that size. A `Sheet` is the same tableau written out as lists: row 0 holds
the costs, the rows after it the equations, and each row ends with its right-hand side. Rows and
columns are plain numbers here, and every look into a list, and every column that is made basic, is
checked.

`Tableau.sheet` writes a tableau out. Each operation on tableaus has its counterpart on sheets, and
one theorem that says that the counterpart goes through and gives the sheet of the result. Nothing
is assumed of the arithmetic: all that the places depend on is the shape.
-/

namespace Baggage.LinearProgram

open Checked

/-- A tableau, written out. -/
structure Sheet (α : Type) where
  /-- The costs, then the equations; each row ends with its right-hand side. -/
  rows : List (List α)
  /-- The column that each equation is solved for. -/
  basis : List ℕ

/-- Why a walk over sheets ends. -/
inductive Halt where
  /-- No column may enter. -/
  | optimal
  /-- This column could enter without bound. -/
  | unbounded (column : ℕ)
  /-- The budget is used up. -/
  | exhausted

/-- A walk over sheets: where it led, the exchanges on the way, and why it ended. -/
structure Route (α : Type) where
  /-- The last sheet. -/
  sheet : Sheet α
  /-- The exchanges of row and column, first to last. -/
  exchanges : List (ℕ × ℕ)
  /-- Why there are no more. -/
  halt : Halt

/-- The events of a walk that begins after `before` pivots. -/
def Route.pivots {α : Type} (r : Route α) (before : ℕ) : List (Event α) :=
  r.exchanges.mapIdx fun i (row, column) => .pivot (before + i) row column

/-! ### The operations on sheets -/

section Operations

variable {α : Type} [Arithmetic α]

/-- A row divided by a number, unless it is one. -/
def divideRow (row : List α) (divisor : α) : List α :=
  if Arithmetic.eq divisor Arithmetic.one then row else row.map fun x => x / divisor

/-- A row less a multiple of another one, unless the factor is zero. -/
def eliminateRow (row other : List α) (factor : α) : List α :=
  if Arithmetic.eq factor Arithmetic.zero then row
  else List.zipWith (fun x y => x - factor * y) row other

/-- The first of so many columns with a number as it is looked for. All of these columns have to
exist. -/
def findColumn? (row : List α) (columns : ℕ) (test : α → Bool) : Option (Option ℕ) :=
  if columns ≤ row.length then some ((row.take columns).findIdx? test) else none

/-- Compares one more row with the best one so far. -/
def betterRow? (tolerance : α) (boundColumn column : ℕ) (best : Option (ℕ × α))
    (item : List α × ℕ) : Option (Option (ℕ × α)) := do
  let entry ← item.1[column]?
  if Arithmetic.le entry tolerance then some best
  else
    let ratio := (← item.1[boundColumn]?) / entry
    match best with
    | none => some (if Arithmetic.isBelowInfinity ratio then some (item.2, ratio) else none)
    | some (_, least) => some (if Arithmetic.lt ratio least then some (item.2, ratio) else best)

namespace Sheet

variable (d : Sheet α)

/-- The column of the right-hand sides, which is the last one. -/
def boundColumn? : Option ℕ := do sub? (← d.rows[0]?).length 1

/-- The basis with another column at a place. Right-hand sides are never basic. -/
def setBasic? (place column : ℕ) : Option (List ℕ) := do
  if column < (← d.boundColumn?) then write? d.basis place column else none

/-- The costs less those of the basic columns, row after row. -/
def priceOut? (costs : List α) : Option (List α) :=
  d.basis.zipIdx.foldlM
    (fun priced (basic, i) => do some (eliminateRow priced (← d.rows[i + 1]?) (← priced[basic]?)))
    costs

/-- The costs less the rows whose basic columns are not proper, row after row. -/
def priceArtificial? (proper : ℕ) (costs : List α) : Option (List α) :=
  d.basis.zipIdx.foldlM
    (fun priced (basic, i) =>
      if basic < proper then some priced
      else do some (List.zipWith (fun x y => x - y) priced (← d.rows[i + 1]?)))
    costs

/-- The sheet with the artificial columns for its costs, priced out. -/
def startSearch? (proper : ℕ) (costs : List α) : Option (Sheet α) := do
  some ⟨← write? d.rows 0 (← d.priceArtificial? proper costs), d.basis⟩

/-- The sheet with other costs, from which those of the basic columns are taken away. -/
def reprice? (costs : List α) : Option (Sheet α) := do
  some ⟨← write? d.rows 0 (← d.priceOut? costs), d.basis⟩

/-- Solves a row for a column and eliminates that column from all other rows. -/
def pivot? (row column : ℕ) : Option (Sheet α) := do
  let basis ← d.setBasic? (← sub? row 1) column
  let source ← d.rows[row]?
  let solved := divideRow source (← source[column]?)
  let rows ← d.rows.zipIdx.mapM fun (other, i) =>
    if i = row then some solved else do some (eliminateRow other solved (← other[column]?))
  some ⟨rows, basis⟩

/-- The leftmost of the columns below a limit with a negative cost. -/
def entering? (tolerance : α) (limit : ℕ) : Option (Option ℕ) := do
  findColumn? (← d.rows[0]?) limit fun cost => Arithmetic.lt cost (-tolerance)

/-- The first row of least ratio. -/
def leaving? (tolerance : α) (column : ℕ) : Option (Option ℕ) := do
  let best ← (d.rows.zipIdx.drop 1).foldlM
    (betterRow? tolerance (← d.boundColumn?) column) none
  some (best.map Prod.fst)

/-- Makes moves for as long as one improves the costs and the budget allows it. -/
def walk? (tolerance : α) (limit : ℕ) (made : List (ℕ × ℕ)) : ℕ → Sheet α → Option (Route α)
  | 0, d => do
    match ← d.entering? tolerance limit with
    | none => some ⟨d, made.reverse, .optimal⟩
    | some _ => some ⟨d, made.reverse, .exhausted⟩
  | budget + 1, d => do
    match ← d.entering? tolerance limit with
    | none => some ⟨d, made.reverse, .optimal⟩
    | some column =>
      match ← d.leaving? tolerance column with
      | none => some ⟨d, made.reverse, .unbounded column⟩
      | some row => walk? tolerance limit ((row, column) :: made) budget (← d.pivot? row column)

/-- Exchanges the basic column of a row for the first proper one with an entry that differs from
zero, if it is not a proper one itself. -/
def driveOutRow? (tolerance : α) (proper : ℕ) (row : ℕ) : Option (Sheet α) := do
  if (← d.basis[← sub? row 1]?) < proper then some d
  else
    match ← findColumn? (← d.rows[row]?) proper fun x =>
        Arithmetic.lt tolerance (Arithmetic.abs x) with
    | none => some d
    | some column => d.pivot? row column

/-- Exchanges the basic columns that are not proper, row after row. -/
def driveOut? (tolerance : α) (proper : ℕ) : Option (Sheet α) :=
  (List.range' 1 (d.rows.length - 1)).foldlM (fun d row => d.driveOutRow? tolerance proper row) d

end Sheet

end Operations

/-! ### Writing a tableau out -/

section Lists

variable {β : Type} {n : ℕ}

theorem zipIdx_map_finRange (f : Fin n → β) (k : ℕ) :
    ((List.finRange n).map f).zipIdx k = (List.finRange n).map fun i => (f i, i.val + k) := by
  refine List.ext_getElem (by simp) fun i _ _ => ?_
  simp [Nat.add_comm]

theorem getElem?_map_finRange (f : Fin n → β) (i : Fin n) :
    ((List.finRange n).map f)[i.val]? = some (f i) := by simp

theorem range'_eq_map_finRange (k n : ℕ) :
    List.range' k n = (List.finRange n).map fun i => i.val + k := by
  refine List.ext_getElem (by simp) fun i _ _ => ?_
  simp [Nat.add_comm]

/-- Another item at a place of a list that is numbered. -/
theorem set_map_finRange (f : Fin n → β) (i : Fin n) (item : β) :
    ((List.finRange n).map f).set i item
      = (List.finRange n).map fun j => if j = i then item else f j := by
  refine List.ext_getElem (by simp) fun j _ _ => ?_
  simp [List.getElem_set, Fin.ext_iff, eq_comm]

end Lists

variable {α : Type}

namespace Equation

variable {n : ℕ}

/-- An equation, written out. -/
def cells (e : Equation α n) : List α := e.coefficients.toList ++ [e.bound]

@[simp] theorem length_cells (e : Equation α n) : e.cells.length = n + 1 := by simp [cells]

@[simp] theorem getElem?_cells (e : Equation α n) (column : Fin n) :
    e.cells[column.val]? = some e.coefficients[column] := by
  simp [cells]

@[simp] theorem getElem?_cells_last (e : Equation α n) : e.cells[n]? = some e.bound := by
  simp [cells]

/-- The first column below a limit, looked for in the equation or in its cells. -/
theorem findColumn?_cells (e : Equation α n) {limit : ℕ} (hlimit : limit ≤ n) (test : α → Bool) :
    findColumn? e.cells limit test = some (((List.finRange n).find? fun column =>
      column.val < limit && test e.coefficients[column]).map Fin.val) := by
  have hlength : limit ≤ e.cells.length := hlimit.trans (by simp)
  have htake : (e.cells.take limit).length = limit := List.length_take_of_le hlength
  have hcell (j : ℕ) (hj : j < (e.cells.take limit).length) (hn : j < n) :
      (e.cells.take limit)[j] = e.coefficients[j] := by
    simp [cells, List.getElem_append_left, hn]
  rw [findColumn?, if_pos hlength]
  congr 1
  cases hfound : (List.finRange n).find? fun column =>
      column.val < limit && test e.coefficients[column] with
  | none =>
      refine List.findIdx?_eq_none_iff.mpr fun x hx => ?_
      obtain ⟨j, hj, rfl⟩ := List.getElem_of_mem hx
      have hbelow : j < limit := htake ▸ hj
      have htest := List.find?_eq_none.mp hfound ⟨j, hbelow.trans_le hlimit⟩ (List.mem_finRange _)
      rw [hcell j hj (hbelow.trans_le hlimit)]
      simpa [hbelow] using htest
  | some column =>
      obtain ⟨htest, i, hi, rfl, hbefore⟩ := List.find?_eq_some_iff_getElem.mp hfound
      simp only [List.getElem_finRange, Bool.and_eq_true, decide_eq_true_eq, Fin.val_cast,
        Fin.getElem_fin, Bool.not_eq_true', Bool.and_eq_false_iff, decide_eq_false_iff_not]
        at htest hbefore
      have hi : i < (e.cells.take limit).length := htest.1.trans_eq htake.symm
      rw [Option.map_some, List.getElem_finRange]
      refine List.findIdx?_eq_some_iff_getElem.mpr ⟨hi, ?_, fun j hj => ?_⟩
      · exact (hcell i hi _).symm ▸ htest.2
      · have hbelow : j < limit := hj.trans htest.1
        rw [hcell j (hj.trans hi) (hbelow.trans_le hlimit)]
        exact Bool.not_eq_true _ ▸ (hbefore j hj).resolve_left (not_not.mpr hbelow)

variable [Arithmetic α]

theorem cells_divide (e : Equation α n) (x : α) : (e.divide x).cells = divideRow e.cells x := by
  unfold divide divideRow
  split
  · rfl
  · rw [cells, cells, List.map_append, Vector.toList_map]
    rfl

theorem cells_eliminate (e other : Equation α n) (x : α) :
    (e.eliminate other x).cells = eliminateRow e.cells other.cells x := by
  unfold eliminate eliminateRow
  split
  · rfl
  · rw [cells, cells, cells, List.zipWith_append (by simp)]
    simp

theorem cells_subtract (e other : Equation α n) :
    (e.subtract other).cells = List.zipWith (fun x y => x - y) e.cells other.cells := by
  unfold subtract
  rw [cells, cells, cells, List.zipWith_append (by simp)]
  simp

end Equation

namespace Tableau

variable {s : Shape}

/-- A tableau, written out. -/
def sheet (t : Tableau α s) : Sheet α :=
  ⟨t.costs.cells :: (List.finRange s.rows).map fun row => (t.equations.get row).cells,
    (List.finRange s.rows).map fun row => (t.basicColumn row).val⟩

section Places

variable (t : Tableau α s)

@[simp] theorem length_sheet_rows : t.sheet.rows.length = s.rows + 1 := by simp [sheet]

@[simp] theorem getElem?_sheet_costs : t.sheet.rows[0]? = some t.costs.cells := rfl

@[simp] theorem getElem?_sheet_rows (row : Fin s.rows) :
    t.sheet.rows[row.val + 1]? = some (t.equations.get row).cells := getElem?_map_finRange _ _

@[simp] theorem getElem?_sheet_basis (row : Fin s.rows) :
    t.sheet.basis[row.val]? = some (t.basicColumn row).val := getElem?_map_finRange _ _

@[simp] theorem boundColumn?_sheet : t.sheet.boundColumn? = some s.columns := by
  rw [Sheet.boundColumn?, getElem?_sheet_costs, Option.bind_eq_bind, Option.bind_some,
    Equation.length_cells, sub?_add_right]

/-- The equations of a sheet with the numbers of their rows. -/
theorem zipIdx_sheet_rows : t.sheet.rows.zipIdx
    = (t.costs.cells, 0) :: (List.finRange s.rows).map fun row =>
      ((t.equations.get row).cells, row.val + 1) := by
  rw [sheet, List.zipIdx_cons, zipIdx_map_finRange]

theorem setBasic?_sheet (row : Fin s.rows) (column : Fin s.columns) :
    t.sheet.setBasic? row column = some ((List.finRange s.rows).map fun i =>
      if i = row then column.val else (t.basicColumn i).val) := by
  have hrow : row.val < t.sheet.basis.length := by simp [sheet]
  have hbasis : t.sheet.basis = (List.finRange s.rows).map fun i => (t.basicColumn i).val := rfl
  rw [Sheet.setBasic?, boundColumn?_sheet, write?_of_lt hrow, hbasis, set_map_finRange]
  exact if_pos column.isLt

end Places

variable [Arithmetic α]

/-! ### The operations on a tableau's sheet -/

theorem priceOut?_sheet (t : Tableau α s) (costs : Equation α s.columns) :
    t.sheet.priceOut? costs.cells = some (t.priceOut costs).cells := by
  have hbasis : t.sheet.basis.zipIdx = (List.finRange s.rows).map fun row =>
      ((t.basicColumn row).val, row.val) := zipIdx_map_finRange _ _
  rw [Sheet.priceOut?, hbasis]
  refine foldlM_map_eq_some Equation.cells (fun priced row _ => ?_) costs
  simp only [getElem?_sheet_rows, Equation.getElem?_cells, Option.bind_eq_bind, Option.bind_some,
    Equation.cells_eliminate]
  rfl

theorem reprice?_sheet (t : Tableau α s) (costs : Equation α s.columns) :
    t.sheet.reprice? costs.cells = some { t with costs := t.priceOut costs }.sheet := by
  have hcosts : 0 < t.sheet.rows.length := by simp
  rw [Sheet.reprice?, priceOut?_sheet, Option.bind_eq_bind, Option.bind_some, write?_of_lt hcosts]
  rfl

theorem priceArtificial?_sheet (t : Tableau α s) (costs : Equation α s.columns) :
    t.sheet.priceArtificial? s.proper costs.cells = some (t.priceArtificial costs).cells := by
  have hbasis : t.sheet.basis.zipIdx = (List.finRange s.rows).map fun row =>
      ((t.basicColumn row).val, row.val) := zipIdx_map_finRange _ _
  rw [Sheet.priceArtificial?, hbasis]
  refine foldlM_map_eq_some Equation.cells (fun priced row _ => ?_) costs
  dsimp only
  split
  · rfl
  · simp only [getElem?_sheet_rows, Option.bind_eq_bind, Option.bind_some,
      Equation.cells_subtract]
    rfl

theorem startSearch?_sheet (t : Tableau α s) (costs : Equation α s.columns) :
    t.sheet.startSearch? s.proper costs.cells
      = some { t with costs := t.priceArtificial costs }.sheet := by
  have hcosts : 0 < t.sheet.rows.length := by simp
  rw [Sheet.startSearch?, priceArtificial?_sheet, Option.bind_eq_bind, Option.bind_some,
    write?_of_lt hcosts]
  rfl

theorem pivot?_sheet (t : Tableau α s) (row : Fin s.rows) (column : Fin s.columns) :
    t.sheet.pivot? (row + 1) column = some (t.pivot row column).sheet := by
  have hsource : (t.equations.get row).cells[column.val]? = some (t.entry row column) :=
    Equation.getElem?_cells _ _
  have hsolve : divideRow (t.equations.get row).cells (t.entry row column)
      = ((t.equations.get row).divide (t.entry row column)).cells :=
    (Equation.cells_divide _ _).symm
  have hbasis (i : Fin s.rows) : (if i = row then column.val else (t.basicColumn i).val)
      = ((t.pivot row column).basicColumn i).val := by
    simp only [pivot, basicColumn, Fin.getElem_fin, Vector.getElem_set, Fin.ext_iff, eq_comm]
    split <;> rfl
  simp only [Sheet.pivot?, sub?_add_right, setBasic?_sheet, getElem?_sheet_rows, hsource, hsolve,
    Option.bind_eq_bind, Option.bind_some, zipIdx_sheet_rows, List.mapM_cons, hbasis]
  rw [mapM_map_eq_some fun i => ((t.pivot row column).equations.get i).cells]
  · simp only [(Nat.succ_ne_zero _).symm, Equation.getElem?_cells, Option.bind_some, if_false,
      ← Equation.cells_eliminate]
    rfl
  · intro i _
    rcases eq_or_ne i row with rfl | hne
    · simp [pivot, Vector.get_eq_getElem]
    · have hval : i.val ≠ row.val := fun h => hne (Fin.ext h)
      have hplace : i.val + 1 ≠ row.val + 1 := fun h => hval (Nat.succ_injective h)
      rw [if_neg hplace, Equation.getElem?_cells, Option.bind_some, ← Equation.cells_eliminate]
      simp [pivot, hval, Vector.get_eq_getElem]

theorem entering?_sheet (t : Tableau α s) (tolerance : α) {limit : ℕ}
    (hlimit : limit ≤ s.columns) :
    t.sheet.entering? tolerance limit = some ((t.entering? tolerance limit).map Fin.val) := by
  rw [Sheet.entering?, getElem?_sheet_costs, Option.bind_eq_bind, Option.bind_some,
    Equation.findColumn?_cells _ hlimit]
  rfl

/-- The row of a ratio test, as it is numbered in a sheet. -/
def sheetRow (best : Option (Fin s.rows × α)) : Option (ℕ × α) :=
  best.map fun (row, ratio) => (row.val + 1, ratio)

theorem betterRow?_sheet (t : Tableau α s) (tolerance : α) (column : Fin s.columns)
    (best : Option (Fin s.rows × α)) (row : Fin s.rows) :
    betterRow? tolerance s.columns column (sheetRow best) ((t.equations.get row).cells, row.val + 1)
      = some (sheetRow (t.betterRow tolerance column best row)) := by
  have hentry : t.entry row column = (t.equations.get row).coefficients[column] := rfl
  have hbound : t.bound row = (t.equations.get row).bound := rfl
  simp only [betterRow?, betterRow, Equation.getElem?_cells, Equation.getElem?_cells_last,
    Option.bind_eq_bind, Option.bind_some, hentry, hbound]
  split
  · rfl
  · cases best with
    | none =>
        simp only [sheetRow, Option.map_none]
        split <;> rfl
    | some found =>
        simp only [sheetRow, Option.map_some]
        split <;> rfl

theorem leaving?_sheet (t : Tableau α s) (tolerance : α) (column : Fin s.columns) :
    t.sheet.leaving? tolerance column
      = some ((t.leaving? tolerance column).map fun row => row.val + 1) := by
  have htest : ((List.finRange s.rows).map fun row =>
      ((t.equations.get row).cells, row.val + 1)).foldlM
        (betterRow? tolerance s.columns column) none
      = some (sheetRow ((List.finRange s.rows).foldl (t.betterRow tolerance column) none)) :=
    foldlM_map_eq_some sheetRow
      (fun best row _ => t.betterRow?_sheet tolerance column best row) none
  rw [Sheet.leaving?, zipIdx_sheet_rows, boundColumn?_sheet, List.drop_one, List.tail_cons]
  simp only [Option.bind_eq_bind, Option.bind_some, htest]
  rw [leaving?, sheetRow, Option.map_map, Option.map_map]
  rfl

theorem driveOutRow?_sheet (t : Tableau α s) (tolerance : α) (row : Fin s.rows) :
    t.sheet.driveOutRow? tolerance s.proper (row + 1)
      = some (t.driveOutRow tolerance row).sheet := by
  have hfind : findColumn? (t.equations.get row).cells s.proper
      (fun x => Arithmetic.lt tolerance (Arithmetic.abs x))
      = some (((List.finRange s.columns).find? fun column => column.val < s.proper &&
        Arithmetic.lt tolerance (Arithmetic.abs (t.entry row column))).map Fin.val) :=
    Equation.findColumn?_cells _ (Nat.le_add_right _ _) _
  simp only [Sheet.driveOutRow?, driveOutRow, sub?_add_right, getElem?_sheet_basis,
    getElem?_sheet_rows, hfind, Option.bind_eq_bind, Option.bind_some]
  split
  · rfl
  · cases (List.finRange s.columns).find? fun column => column.val < s.proper &&
        Arithmetic.lt tolerance (Arithmetic.abs (t.entry row column)) with
    | none => rfl
    | some column => exact t.pivot?_sheet row column

theorem driveOut?_sheet (t : Tableau α s) (tolerance : α) :
    t.sheet.driveOut? tolerance s.proper = some (t.driveOut tolerance).sheet := by
  rw [Sheet.driveOut?, length_sheet_rows, Nat.add_sub_cancel, range'_eq_map_finRange]
  exact foldlM_map_eq_some sheet (fun t row _ => t.driveOutRow?_sheet tolerance row) t

end Tableau

/-! ### Walks -/

variable {s : Shape}

/-- The end of a walk, written out. -/
def Ending.halt : Ending s → Halt
  | .optimal => .optimal
  | .unbounded column => .unbounded column
  | .exhausted => .exhausted

/-- An exchange, as it is numbered in a sheet. -/
def sheetExchange (exchange : Fin s.rows × Fin s.columns) : ℕ × ℕ :=
  (exchange.1.val + 1, exchange.2.val)

/-- A walk, written out. -/
def Walk.route (w : Walk α s) : Route α :=
  ⟨w.tableau.sheet, w.exchanges.map sheetExchange, w.ending.halt⟩

theorem Walk.pivots_route (w : Walk α s) (before : ℕ) :
    w.route.pivots before = w.pivots before := by
  refine List.ext_getElem (by simp [Route.pivots, Walk.pivots, Walk.route]) fun i _ _ => ?_
  simp [Route.pivots, Walk.pivots, Walk.route, sheetExchange]

variable [Arithmetic α]

open Tableau in
/-- **A walk goes through**: one move stays on the sheet, and so does every further one. -/
theorem walk?_sheet (tolerance : α) {limit : ℕ} (hlimit : limit ≤ s.columns)
    (made : List (Fin s.rows × Fin s.columns)) (budget : ℕ) (t : Tableau α s) :
    t.sheet.walk? tolerance limit (made.map sheetExchange) budget
      = some (walk tolerance limit made budget t).route := by
  induction budget generalizing made t with
  | zero =>
      simp only [Sheet.walk?, walk, move, entering?_sheet _ _ hlimit, Option.bind_eq_bind,
        Option.bind_some, ← List.map_reverse]
      cases t.entering? tolerance limit with
      | none => rfl
      | some column =>
          dsimp only [Option.map_some]
          cases t.leaving? tolerance column with
          | none => rfl
          | some row => rfl
  | succ budget ih =>
      simp only [Sheet.walk?, walk, move, entering?_sheet _ _ hlimit, Option.bind_eq_bind,
        Option.bind_some, ← List.map_reverse]
      cases t.entering? tolerance limit with
      | none => rfl
      | some column =>
          simp only [Option.map_some, leaving?_sheet, Option.bind_some]
          cases t.leaving? tolerance column with
          | none => rfl
          | some row =>
              simp only [Option.map_some, pivot?_sheet, Option.bind_some]
              exact ih ((row, column) :: made) (t.pivot row column)

end Baggage.LinearProgram

import Baggage.Proofs.LinearProgram.Budget
import Baggage.Proofs.LinearProgram.Draft
import Baggage.Proofs.LinearProgram.Shared

/-!
# Baggage.Proofs.LinearProgram.Indices

**The solver on sheets.** `Solver.solve?` solves a problem on a `Sheet`: it writes the starting
sheet, walks through both phases, and reads the solution off the last sheet, with a check of every
index on the way. The theorem of this module is that no index is ever outside of its table and that
the result is that of the solver, for every problem, every solver and every arithmetic
(`Solver.solve?_eq_some`).

The shape of the results follows from the same columns: only proper ones enter, so every pivot is in
one of them, and so is the column in which an objective has no bound.
-/

namespace Baggage.LinearProgram

open Checked

variable {α : Type} [Arithmetic α]

/-! ### Reading a solution -/

namespace Sheet

variable (d : Sheet α)

/-- The row that holds the one of a unit column. -/
def unitRow? (tolerance : α) (column : ℕ) : Option (Option ℕ) := do
  let entries ← (d.rows.drop 1).mapM fun row => row[column]?
  let isOne := fun (x : α) => Arithmetic.le (Arithmetic.abs (x - Arithmetic.one)) tolerance
  match (entries.zipIdx 1).filter fun item => isOne item.1 with
  | [(_, row)] =>
    some (if entries.any fun x => !isOne x && Arithmetic.lt tolerance (Arithmetic.abs x) then none
      else some row)
  | _ => some none

/-- The value of a column. -/
def value? (tolerance : α) (column : ℕ) : Option α := do
  match ← d.unitRow? tolerance column with
  | none => some Arithmetic.zero
  | some row =>
    if (← d.basis[← sub? row 1]?) = column then (← d.rows[row]?)[← d.boundColumn?]?
    else some Arithmetic.zero

end Sheet

/-- The report on a row, given its final dual cost and the factor that goes with it. -/
def Row.report (maximize : Bool) (values : List α) (source : Row α) (cost factor : α) :
    RowReport α :=
  let activity := Arithmetic.dot source.coefficients values
  let slack := match source.relation with
    | .atMost => source.bound - activity
    | .atLeast => activity - source.bound
    | .equal => Arithmetic.zero
  let direction : α := if maximize then Arithmetic.one else -Arithmetic.one
  { name := source.name
    activity := activity
    slack := slack
    shadowPrice := direction * cost * factor + Arithmetic.zero
    binding := Arithmetic.le (Arithmetic.abs slack)
      (bindingTolerance * (Arithmetic.one + Arithmetic.abs source.bound)) }

/-- The solution that an optimal sheet holds. -/
def Problem.solution? (p : Problem α) (tolerance : α) (duals : List (ℕ × α)) (d : Sheet α)
    (iterations : ℕ) : Option (Solution α) := do
  let costs ← d.rows[0]?
  let values ← (List.range p.variableCount).mapM (d.value? tolerance)
  let corner ← costs[← d.boundColumn?]?
  let reports ← (p.rows.zip duals).mapM fun (source, column, factor) => do
    some (source.report p.maximize values (← costs[column]?) factor)
  some ⟨values, (if p.maximize then corner else -corner) + Arithmetic.zero, iterations, reports⟩

/-! ### Both phases -/

namespace Solver

variable (solver : Solver α)

/-- The first phase: the columns before the last `artificials` ones and the right-hand side are
proper. -/
def findFeasible? (budget proper : ℕ) (costs : List α) (d : Sheet α) :
    Option (Logged α (Except (SolveError α) (Sheet α × ℕ))) := do
  let boundColumn ← d.boundColumn?
  let artificialCosts := List.replicate proper Arithmetic.zero
    ++ List.replicate (← sub? boundColumn proper) Arithmetic.one ++ [Arithmetic.zero]
  let r ← (← d.startSearch? proper artificialCosts).walk? solver.tolerance proper [] budget
  let pivots := r.pivots 0
  match r.halt with
  | .unbounded _ => some ⟨.error .infeasible, pivots⟩
  | .exhausted => some ⟨.error (.didNotConverge r.exchanges.length), pivots⟩
  | .optimal =>
    let infeasibility := -(← (← r.sheet.rows[0]?)[boundColumn]?)
    if Arithmetic.lt feasibilityTolerance infeasibility then
      some ⟨.error .infeasible, pivots ++ [.artificialsPositive infeasibility]⟩
    else
      let d ← (← r.sheet.driveOut? solver.tolerance proper).reprice? costs
      some ⟨.ok (d, r.exchanges.length), pivots⟩

/-- The second phase, from a sheet that was reached with `before` pivots. -/
def optimize? (p : Problem α) (duals : List (ℕ × α)) (d : Sheet α) (before : ℕ) :
    Option (Logged α (Except (SolveError α) (Solution α))) := do
  let proper := p.variableCount + p.rows.length
  let r ← d.walk? solver.tolerance proper [] (solver.budget p - before)
  let iterations := before + r.exchanges.length
  let pivots := r.pivots before
  match r.halt with
  | .unbounded column =>
    some ⟨.error (.unbounded column), pivots ++ [.unbounded column iterations]⟩
  | .exhausted => some ⟨.error (.didNotConverge iterations), pivots ++ [.exhausted iterations]⟩
  | .optimal =>
    let solution ← p.solution? solver.tolerance duals r.sheet iterations
    some ⟨.ok solution, pivots ++ [.optimum iterations solution.objective]⟩

/-- The first phase from the starting sheet, if there are artificial columns. -/
def prepare? (p : Problem α) (d : Sheet α) :
    Option (Logged α (Except (SolveError α) (Sheet α × ℕ))) := do
  if p.rows.countP Row.needsArtificial = 0 then some (.quiet (.ok (d, 0)))
  else
    solver.findFeasible? (solver.budget p) (p.variableCount + p.rows.length) (← d.rows[0]?) d

/-- **Solves a problem on a sheet**, with a check of every index. -/
def solve? (p : Problem α) : Option (Logged α (Except (SolveError α) (Solution α))) :=
  match p.fault? solver.phaseOne with
  | some fault => some (.quiet (.error (.invalid fault)))
  | none => do
    let (d, duals) ← p.build?
    let prepared ← solver.prepare? p d
    let solved ← match prepared.result with
      | .error e => some (.quiet (.error e))
      | .ok (d, before) => solver.optimize? p duals d before
    some (.precededBy ⟨solved.result, prepared.events ++ solved.events⟩
      (.solving p.variableCount p.rows.length (p.rows.countP Row.needsArtificial)
        (solver.budget p)))

end Solver

/-! ### The solution is that of the tableau -/

namespace Tableau

variable {s : Shape} (t : Tableau α s) (tolerance : α) (column : Fin s.columns)

theorem unitRow?_sheet : t.sheet.unitRow? tolerance column
    = some ((t.unitRow? tolerance column).map fun row => row.val + 1) := by
  have hentries : (t.sheet.rows.drop 1).mapM (fun row => row[column.val]?)
      = some ((List.finRange s.rows).map fun row => t.entry row column) :=
    mapM_map_eq_some _ fun row _ => Equation.getElem?_cells _ _
  unfold Sheet.unitRow? unitRow?
  simp only [hentries, Option.bind_eq_bind, Option.bind_some, zipIdx_map_finRange, List.filter_map,
    List.any_map, Function.comp_def]
  generalize List.filter _ (List.finRange s.rows) = ones
  cases ones with
  | nil => rfl
  | cons row rest =>
      cases rest with
      | nil =>
          simp only [List.map_cons, List.map_nil]
          split
          · rfl
          · rfl
      | cons other rest => rfl

theorem value?_sheet : t.sheet.value? tolerance column = some (t.value tolerance column) := by
  unfold Sheet.value? value
  rw [unitRow?_sheet]
  cases t.unitRow? tolerance column with
  | none => rfl
  | some row =>
      simp only [Option.map_some, Option.bind_eq_bind, Option.bind_some, sub?_add_right,
        getElem?_sheet_basis, getElem?_sheet_rows, boundColumn?_sheet,
        Equation.getElem?_cells_last, Fin.ext_iff]
      split
      · rfl
      · rfl

theorem values?_sheet : (List.range s.variableCount).mapM (t.sheet.value? tolerance)
    = some (t.values tolerance) := by
  have hrange : List.range s.variableCount = (List.finRange s.variableCount).map Fin.val := by
    refine List.ext_getElem (by simp) fun i _ _ => ?_
    simp
  rw [hrange]
  exact mapM_map_eq_some _ fun index _ => t.value?_sheet tolerance (s.variableColumn index)

end Tableau

namespace Problem

variable (p : Problem α)

theorem rowReport_eq_report (costs : Equation α p.shape.columns) (values : List α)
    (i : Fin p.shape.rows) : p.rowReport costs values i
      = (p.rows.get i).report p.maximize values costs.coefficients[(p.dual i).1] (p.dual i).2 := rfl

/-- **The solution is read** off the sheet of a tableau without a fault. -/
theorem solution?_eq_some (tolerance : α) (t : Tableau α p.shape) (iterations : ℕ) :
    p.solution? tolerance p.duals t.sheet iterations
      = some (p.solution tolerance t iterations) := by
  have hrows : p.rows.zip p.duals
      = (List.finRange p.rows.length).map fun i => (p.rows.get i, p.dualCell i) := by
    have hzip : ((List.finRange p.rows.length).map p.rows.get).zip
        ((List.finRange p.rows.length).map p.dualCell)
        = (List.finRange p.rows.length).map fun i => (p.rows.get i, p.dualCell i) := List.zip_map'
    rwa [List.map_get_finRange] at hzip
  have hreports (values : List α) : ((List.finRange p.rows.length).map fun i =>
      (p.rows.get i, p.dualCell i)).mapM (fun x =>
        (t.costs.cells[x.2.1]?).bind fun cost =>
          some (x.1.report p.maximize values cost x.2.2))
      = some ((List.finRange p.rows.length).map (p.rowReport t.costs values)) := by
    refine mapM_map_eq_some _ fun i _ => ?_
    rw [dualCell, Equation.getElem?_cells, Option.bind_some, rowReport_eq_report]
  unfold solution?
  rw [hrows]
  simp only [Tableau.getElem?_sheet_costs, Tableau.boundColumn?_sheet,
    Equation.getElem?_cells_last, t.values?_sheet, Option.bind_eq_bind, Option.bind_some, hreports]
  rfl

end Problem

/-! ### The phases are those of the solver -/

theorem Shape.cells_artificialCosts (s : Shape) :
    (s.artificialCosts : Equation α s.columns).cells
      = List.replicate s.proper Arithmetic.zero
        ++ List.replicate s.artificials Arithmetic.one ++ [Arithmetic.zero] := by
  unfold artificialCosts Equation.cells
  congr 1
  refine List.ext_getElem (by simp) fun j _ _ => ?_
  simp [List.getElem_append]

namespace Solver

variable (solver : Solver α)

/-- A result of the first phase, with the tableau written out. -/
def sheetResult {s : Shape} (x : Logged α (Except (SolveError α) (Tableau α s × ℕ))) :
    Logged α (Except (SolveError α) (Sheet α × ℕ)) :=
  x.map fun result => result.map fun found => (found.1.sheet, found.2)

theorem findFeasible?_sheet {s : Shape} (budget : ℕ) (costs : Equation α s.columns)
    (t : Tableau α s) : solver.findFeasible? budget s.proper costs.cells t.sheet
      = some (sheetResult (solver.findFeasible budget s.artificialCosts costs t)) := by
  have hproper : s.proper ≤ s.columns := Nat.le_add_right _ _
  have hartificials : sub? s.columns s.proper = some s.artificials := by
    rw [sub?_of_le hproper, Nat.add_sub_cancel_left]
  unfold findFeasible? findFeasible
  simp only [Tableau.boundColumn?_sheet, hartificials, Option.bind_eq_bind, Option.bind_some,
    ← Shape.cells_artificialCosts, Tableau.startSearch?_sheet]
  have hwalk := walk?_sheet solver.tolerance hproper [] budget
    { t with costs := t.priceArtificial s.artificialCosts }
  rw [List.map_nil] at hwalk
  rw [hwalk, Option.bind_some, Walk.pivots_route]
  generalize walk solver.tolerance s.proper [] budget
    { t with costs := t.priceArtificial s.artificialCosts } = w
  obtain ⟨last, exchanges, ending⟩ := w
  cases ending with
  | unbounded column => rfl
  | exhausted => simp [sheetResult, Walk.route, Ending.halt, Logged.map, Except.map]
  | optimal =>
      simp only [Walk.route, Ending.halt, Tableau.getElem?_sheet_costs,
        Equation.getElem?_cells_last, Option.bind_some, Tableau.driveOut?_sheet,
        Tableau.reprice?_sheet, List.length_map]
      split
      · rfl
      · rfl

variable (p : Problem α)

theorem optimize?_sheet (t : Tableau α p.shape) (before : ℕ) :
    solver.optimize? p p.duals t.sheet before
      = some (solver.optimize p t before) := by
  have hproper : p.shape.proper ≤ p.shape.columns := Nat.le_add_right _ _
  have hwalk := walk?_sheet solver.tolerance hproper [] (solver.budget p - before) t
  rw [List.map_nil] at hwalk
  unfold optimize? optimize
  simp only [hwalk, Option.bind_eq_bind, Option.bind_some, Walk.pivots_route]
  generalize walk solver.tolerance p.shape.proper [] (solver.budget p - before) t = w
  obtain ⟨last, exchanges, ending⟩ := w
  cases ending with
  | unbounded column => simp [Walk.route, Ending.halt]
  | exhausted => simp [Walk.route, Ending.halt]
  | optimal =>
      simp only [Walk.route, Ending.halt, p.solution?_eq_some, Option.bind_some, List.length_map]

theorem prepare?_sheet :
    solver.prepare? p p.start.sheet = some (sheetResult (solver.prepare p)) := by
  by_cases hnone : p.shape.artificials = 0
  · rw [prepare?, if_pos hnone, prepare, if_pos hnone]
    rfl
  · rw [prepare?, if_neg hnone, prepare, if_neg hnone]
    exact solver.findFeasible?_sheet (solver.budget p) p.startCosts p.start

theorem solve?_eq (p : Problem α) : solver.solve? p = some (solver.solve p) := by
  unfold solve? solve
  cases hfault : p.fault? solver.phaseOne with
  | some fault => rfl
  | none =>
      have hlength (row : Row α) (hrow : row ∈ p.rows) :
          row.coefficients.length = p.variableCount :=
        ((Problem.fault?_eq_none_iff_isAccepted.mp hfault).2 row hrow).1
      simp only [p.build?_eq_some hlength, prepare?_sheet, Option.bind_eq_bind, Option.bind_some,
        solveAccepted]
      cases hresult : (solver.prepare p).result with
      | error e => simp [sheetResult, hresult, Except.map, Logged.precededBy, Logged.andThen]
      | ok found =>
          obtain ⟨t, before⟩ := found
          simp [sheetResult, hresult, Except.map, optimize?_sheet, Logged.precededBy,
            Logged.andThen]

end Solver

/-! ### The shape of results -/

section Walk

variable {s : Shape} {tolerance : α} {limit : ℕ} {t : Tableau α s} {column : Fin s.columns}

/-- Only columns below the limit enter. -/
theorem Tableau.lt_of_move (h : t.move tolerance limit = .unbounded column ∨
    ∃ row, t.move tolerance limit = .pivot row column) : column.val < limit := by
  have hentering : t.entering? tolerance limit = some column := by
    unfold move at h
    cases hentering : t.entering? tolerance limit with
    | none => simp [hentering] at h
    | some entering =>
        cases hleaving : t.leaving? tolerance entering with
        | none => simpa [hentering, hleaving] using h
        | some row => simpa [hentering, hleaving] using h
  have hfound := List.find?_some hentering
  rw [Bool.and_eq_true, decide_eq_true_eq] at hfound
  exact hfound.1

theorem walk_lt (made : List (Fin s.rows × Fin s.columns)) (hmade : ∀ e ∈ made, e.2.val < limit)
    (budget : ℕ) (t : Tableau α s) :
    (∀ e ∈ (walk tolerance limit made budget t).exchanges, e.2.val < limit) ∧
      ∀ column, (walk tolerance limit made budget t).ending = .unbounded column →
        column.val < limit := by
  have hreverse : ∀ e ∈ made.reverse, e.2.val < limit := fun e he =>
    hmade e (List.mem_reverse.mp he)
  induction budget generalizing made t with
  | zero =>
      unfold walk
      split
      · exact ⟨hreverse, nofun⟩
      · exact ⟨hreverse, nofun⟩
  | succ budget ih =>
      unfold walk
      split
      · exact ⟨hreverse, nofun⟩
      · next entering hmove =>
          refine ⟨hreverse, fun column hcolumn => ?_⟩
          cases hcolumn
          exact Tableau.lt_of_move (Or.inl hmove)
      · next row entering hmove =>
          have hmade' : ∀ e ∈ (row, entering) :: made, e.2.val < limit :=
            List.forall_mem_cons.mpr ⟨Tableau.lt_of_move (Or.inr ⟨row, hmove⟩), hmade⟩
          exact ih _ hmade' _ fun e he => hmade' e (List.mem_reverse.mp he)

/-- The pivots of a walk are in rows, counted from one, and in columns below the limit. -/
theorem Concludes.of_pivot_mem {β : Type} {budget before : ℕ} {spent : β → ℕ}
    {x : Logged α (Except (SolveError α) β)}
    (hx : Concludes (walk tolerance limit [] budget t) before spent x) {iteration row entering : ℕ}
    (h : Event.pivot iteration row entering ∈ x.events) :
    1 ≤ row ∧ row ≤ s.rows ∧ entering < limit := by
  have hpivot : Event.pivot iteration row entering ∈ x.pivots := List.mem_filter.mpr ⟨h, rfl⟩
  rw [hx.pivots_eq] at hpivot
  obtain ⟨i, hi, hevent⟩ := List.mem_mapIdx.mp hpivot
  obtain ⟨-, rfl, rfl⟩ := Event.pivot.inj hevent
  exact ⟨Nat.succ_pos _, Fin.isLt _,
    (walk_lt [] (List.forall_mem_nil _) budget t).1 _ (List.getElem_mem hi)⟩

end Walk

namespace Solver

variable {solver : Solver α} {p : Problem α}

/-- Every pivot is in one of the rows and in a proper column. -/
theorem of_pivot_mem_solve {iteration row column : ℕ}
    (h : Event.pivot iteration row column ∈ (solver.solve p).events) :
    1 ≤ row ∧ row ≤ p.rows.length ∧ column < p.variableCount + p.rows.length := by
  have hprepare (h : Event.pivot iteration row column ∈ (solver.prepare p).events) :
      1 ≤ row ∧ row ≤ p.rows.length ∧ column < p.variableCount + p.rows.length := by
    unfold prepare at h
    split at h
    · cases h
    · exact (solver.concludes_findFeasible _ _ _ _).of_pivot_mem h
  unfold solve at h
  split at h
  · cases h
  · rw [Logged.events_precededBy, solveAccepted, Logged.events_andThen] at h
    rcases List.mem_cons.mp h with hfirst | h
    · cases hfirst
    · rcases List.mem_append.mp h with h | h
      · exact hprepare h
      · cases hresult : (solver.prepare p).result with
        | error e =>
            rw [hresult] at h
            cases h
        | ok found =>
            rw [hresult] at h
            exact (solver.concludes_optimize _ _).of_pivot_mem h

/-- The column in which there is no bound is a proper one. -/
theorem lt_of_solve_eq_unbounded {column : ℕ}
    (h : (solver.solve p).result = .error (.unbounded column)) :
    column < p.variableCount + p.rows.length := by
  rcases solver.solve_cases p with
    ⟨fault, -, hsolve⟩ | ⟨e, -, hprepare, hsolve⟩ | ⟨t, before, -, -, hsolve⟩
  · cases hsolve.symm.trans h
  · obtain rfl := Except.error.inj (hsolve.symm.trans h)
    rcases prepare_eq_error hprepare with he | ⟨n, he⟩
    · cases he
    · cases he
  · rw [hsolve, optimize] at h
    have hlt : ∀ entering, (walk solver.tolerance p.shape.proper [] (solver.budget p - before)
        t).ending = .unbounded entering → entering.val < p.shape.proper :=
      (walk_lt [] (List.forall_mem_nil _) _ t).2
    dsimp only at h
    split at h
    · next entering hending =>
        cases h
        exact hlt entering hending
    · cases h
    · cases h

/-- In standard form no problem is found infeasible. -/
theorem solve_ne_infeasible (hstandard : solver.phaseOne = false) :
    (solver.solve p).result ≠ .error .infeasible := by
  intro h
  rcases solver.solve_cases p with
    ⟨fault, -, hsolve⟩ | ⟨e, hfault, hprepare, -⟩ | ⟨t, before, -, -, hsolve⟩
  · cases hsolve.symm.trans h
  · rw [hstandard] at hfault
    rw [prepare, if_pos (Problem.artificials_eq_zero hfault)] at hprepare
    cases hprepare
  · rw [hsolve, optimize] at h
    dsimp only at h
    split at h
    · cases h
    · cases h
    · cases h

/-- A solution has a value for each variable and a report on each row. -/
theorem shape_of_solve_eq_ok {solution : Solution α} (h : (solver.solve p).result = .ok solution) :
    solution.values.length = p.variableCount ∧
      solution.rows.map RowReport.name = p.rows.map Row.name := by
  rcases solver.solve_cases p with
    ⟨fault, -, hsolve⟩ | ⟨e, -, -, hsolve⟩ | ⟨t, before, -, -, hsolve⟩
  · cases hsolve.symm.trans h
  · cases hsolve.symm.trans h
  · rw [hsolve, optimize_result] at h
    cases hfinish : solver.finish (solver.budget p) t before with
    | error e => simp [hfinish, Except.map] at h
    | ok found =>
        rw [hfinish] at h
        obtain rfl := Except.ok.inj h
        have hnames : ((List.finRange p.rows.length).map p.rows.get).map Row.name
            = p.rows.map Row.name := by rw [List.map_get_finRange]
        refine ⟨by simp [Problem.solution, Tableau.values], ?_⟩
        rw [← hnames]
        simp only [Problem.solution, List.map_map]
        rfl

/-- **No index of the solver is ever outside of its table**, for every problem, every solver and
every arithmetic, and its results have the shape of the problem. -/
theorem solve?_eq_some (solver : Solver α) (p : Problem α) :
    solver.solve? p = some (solver.solve p) ∧
      (∀ iteration row column, Event.pivot iteration row column ∈ (solver.solve p).events →
        1 ≤ row ∧ row ≤ p.rows.length ∧ column < p.variableCount + p.rows.length) ∧
      (∀ column, (solver.solve p).result = .error (.unbounded column) →
        column < p.variableCount + p.rows.length) ∧
      (solver.phaseOne = false → (solver.solve p).result ≠ .error .infeasible) ∧
      ∀ solution, (solver.solve p).result = .ok solution →
        solution.values.length = p.variableCount ∧
          solution.rows.map RowReport.name = p.rows.map Row.name :=
  ⟨solver.solve?_eq p, fun _ _ _ => of_pivot_mem_solve, fun _ => lt_of_solve_eq_unbounded,
    solve_ne_infeasible, fun _ => shape_of_solve_eq_ok⟩

end Solver

end Baggage.LinearProgram

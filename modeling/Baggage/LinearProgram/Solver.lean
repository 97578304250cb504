import Baggage.LinearProgram.Solution
import Baggage.LinearProgram.Walk

/-!
# Baggage.LinearProgram.Solver

The **two-phase simplex method**. A problem whose rows all start from their slacks is solved from
the origin. Otherwise a first phase minimises the sum of the artificial columns; if that sum stays
positive the problem is infeasible, and if not, the artificial columns that are still basic are
exchanged for proper ones where possible, and the second phase starts from there with the
problem's own costs.

Both phases are walks and share one budget of pivots: the second may make as many as the first
left over, and numbers its own on from there.
-/

namespace Baggage.LinearProgram

/-- The parameters of the method. -/
structure Solver (α : Type) where
  /-- The pivots allowed, if they are not to depend on the size of the problem. -/
  maxIterations : Option Nat
  /-- How far from zero a number must be to count as positive or negative. -/
  tolerance : α
  /-- Whether problems in general form are accepted. -/
  phaseOne : Bool

/-- Why a problem was not solved. -/
inductive SolveError (α : Type) where
  /-- The problem is not accepted. -/
  | invalid (fault : Fault α)
  /-- The objective has no bound in the direction of a column. -/
  | unbounded (column : Nat)
  /-- The budget of pivots was used up. -/
  | didNotConverge (iterations : Nat)
  /-- No point meets all rows. -/
  | infeasible
  deriving DecidableEq

namespace SolveError

/-- Whether the problem itself was at fault, rather than its solution. -/
def isInvalid {α : Type} : SolveError α → Bool
  | invalid _ => true
  | _ => false

/-- The wording of a solve error. -/
def message : SolveError Float → String
  | invalid fault => "Invalid input: " ++ fault.message
  | unbounded _ => "Problem is unbounded"
  | didNotConverge iterations =>
    "Simplex did not converge within " ++ toString iterations ++ " iterations"
  | infeasible => "Problem is infeasible"

end SolveError

/-! ### The first phase -/

section FirstPhase

variable {α : Type} [Arithmetic α] {s : Shape}

/-- The largest sum of artificial columns that still counts as zero. -/
@[inline] def feasibilityTolerance : α := Arithmetic.ofDecimal (.scaled 1 7)

/-- Exchanges the basic column of a row, if it is artificial, for the first proper column with an
entry that differs from zero. -/
@[specialize] def Tableau.driveOutRow (tolerance : α) (t : Tableau α s) (row : Fin s.rows) :
    Tableau α s :=
  if (t.basicColumn row).val < s.proper then t
  else
    let column? := (List.finRange s.columns).find? fun column =>
      column.val < s.proper && Arithmetic.lt tolerance (Arithmetic.abs (t.entry row column))
    match column? with
    | none => t
    | some column => t.pivot row column

/-- Exchanges artificial basic columns for proper ones, row after row. -/
@[specialize] def Tableau.driveOut (tolerance : α) (t : Tableau α s) : Tableau α s :=
  (List.finRange s.rows).foldl (Tableau.driveOutRow tolerance) t

/-- The first phase: looks for a feasible point and leaves the tableau there, priced for `costs`,
together with the number of pivots made. -/
@[specialize] def Solver.findFeasible (solver : Solver α) (budget : Nat)
    (artificialCosts costs : Equation α s.columns) (t : Tableau α s) :
    Logged α (Except (SolveError α) (Tableau α s × Nat)) :=
  let w := walk solver.tolerance s.proper [] budget
    { t with costs := t.priceArtificial artificialCosts }
  let pivots := w.pivots 0
  match w.ending with
  | .unbounded _ => ⟨.error .infeasible, pivots⟩
  | .exhausted => ⟨.error (.didNotConverge w.exchanges.length), pivots⟩
  | .optimal =>
    let infeasibility := -w.tableau.costs.bound
    if Arithmetic.lt feasibilityTolerance infeasibility then
      ⟨.error .infeasible, pivots ++ [.artificialsPositive infeasibility]⟩
    else
      let proper := w.tableau.driveOut solver.tolerance
      ⟨.ok ({ proper with costs := proper.priceOut costs }, w.exchanges.length), pivots⟩

end FirstPhase

/-! ### Solving -/

variable {α : Type} [Arithmetic α]

namespace Solver

/-- The solver that is used where nothing else is asked for: standard form only, a tolerance of
`10 ^ -9`, and a budget that depends on the problem. -/
def standard : Solver α := ⟨none, Arithmetic.ofDecimal (.scaled 1 9), false⟩

/-- The pivots allowed for a problem. -/
def budget (solver : Solver α) (p : Problem α) : Nat :=
  solver.maxIterations.getD (max (50 * (p.variableCount + p.rows.length)) 100)

/-- The tableau from which the second phase starts and the number of pivots made so far. -/
@[specialize] def prepare (solver : Solver α) (p : Problem α) :
    Logged α (Except (SolveError α) (Tableau α p.shape × Nat)) :=
  if p.shape.artificials = 0 then .quiet (.ok (p.start, 0))
  else solver.findFeasible (solver.budget p) p.artificialCosts p.startCosts p.start

/-- The second phase, from a feasible tableau that was reached with `before` pivots. -/
@[specialize] def optimize (solver : Solver α) (p : Problem α) (t : Tableau α p.shape)
    (before : Nat) : Logged α (Except (SolveError α) (Solution α)) :=
  let w := walk solver.tolerance p.shape.proper [] (solver.budget p - before) t
  let iterations := before + w.exchanges.length
  let pivots := w.pivots before
  match w.ending with
  | .unbounded column =>
    ⟨.error (.unbounded column), pivots ++ [.unbounded column iterations]⟩
  | .exhausted => ⟨.error (.didNotConverge iterations), pivots ++ [.exhausted iterations]⟩
  | .optimal =>
    let solution := p.solution solver.tolerance w.tableau iterations
    ⟨.ok solution, pivots ++ [.optimum iterations solution.objective]⟩

/-- Solves an accepted problem. -/
@[specialize] def solveAccepted (solver : Solver α) (p : Problem α) :
    Logged α (Except (SolveError α) (Solution α)) :=
  (solver.prepare p).andThen fun
    | .error e => .quiet (.error e)
    | .ok (t, before) => solver.optimize p t before

/-- Solves a problem. -/
@[specialize] def solve (solver : Solver α) (p : Problem α) :
    Logged α (Except (SolveError α) (Solution α)) :=
  match p.fault? solver.phaseOne with
  | some fault => .quiet (.error (.invalid fault))
  | none =>
    (solver.solveAccepted p).precededBy
      (.solving p.shape.variableCount p.shape.rows p.shape.artificials (solver.budget p))

end Solver

end Baggage.LinearProgram

import Baggage.LinearProgram.Start

/-!
# Baggage.LinearProgram.Solution

The **solution** that an optimal tableau holds. A variable has a value where its column is a unit
column and basic, and is zero otherwise; the objective stands at the right of the costs. Each row
is reported with its activity, its slack and its shadow price, which is the final cost of the
row's dual column with the signs of the problem restored.
-/

namespace Baggage.LinearProgram

/-- What is known of a row at an optimum. -/
structure RowReport (α : Type) where
  /-- The row's name. -/
  name : String
  /-- The left-hand side. -/
  activity : α
  /-- How far the left-hand side stays within the bound; zero for an equation. -/
  slack : α
  /-- The change of the objective for each unit that the bound grows by. -/
  shadowPrice : α
  /-- Whether the bound is reached. -/
  binding : Bool
  deriving DecidableEq

/-- An optimal point of a problem. -/
structure Solution (α : Type) where
  /-- The value of each variable. -/
  values : List α
  /-- The value of the objective. -/
  objective : α
  /-- The pivots made, in both phases together. -/
  iterations : Nat
  /-- The report on each row, in order. -/
  rows : List (RowReport α)
  deriving DecidableEq

/-- The names of the rows whose bound is reached. -/
def Solution.bindingRows {α : Type} (solution : Solution α) : List String :=
  (solution.rows.filter RowReport.binding).map RowReport.name

/-! ### Reading values -/

section Values

variable {α : Type} [Arithmetic α] {s : Shape}

/-- The row that holds the one in a column which has one there and zeros in all other rows. -/
@[specialize] def Tableau.unitRow? (tolerance : α) (t : Tableau α s) (column : Fin s.columns) :
    Option (Fin s.rows) :=
  let isOne := fun row =>
    Arithmetic.le (Arithmetic.abs (t.entry row column - Arithmetic.one)) tolerance
  let isOther := fun row =>
    !isOne row && Arithmetic.lt tolerance (Arithmetic.abs (t.entry row column))
  let rows := List.finRange s.rows
  match rows.filter isOne with
  | [row] => if rows.any isOther then none else some row
  | _ => none

/-- The value of a column at the tableau's vertex: what its equation says if the column is basic,
otherwise zero. -/
@[specialize] def Tableau.value (tolerance : α) (t : Tableau α s) (column : Fin s.columns) : α :=
  match t.unitRow? tolerance column with
  | some row => if t.basicColumn row = column then t.bound row else Arithmetic.zero
  | none => Arithmetic.zero

/-- The values of all variables. -/
@[specialize] def Tableau.values (tolerance : α) (t : Tableau α s) : List α :=
  (List.finRange s.variableCount).map fun index => t.value tolerance (s.variableColumn index)

end Values

/-! ### Reading the solution -/

variable {α : Type} [Arithmetic α]

/-- How much slack, relative to its bound, a binding row may have. -/
@[inline] def bindingTolerance : α := Arithmetic.ofDecimal (.scaled 1 7)

/-- The report on one row of the problem at a point, given the final costs. -/
@[specialize] def Problem.rowReport (p : Problem α) (costs : Equation α p.shape.columns)
    (values : List α) (row : Fin p.shape.rows) : RowReport α :=
  let source := p.rows.get row
  let activity := Arithmetic.dot source.coefficients values
  let slack := match source.relation with
    | .atMost => source.bound - activity
    | .atLeast => activity - source.bound
    | .equal => Arithmetic.zero
  let direction : α := if p.maximize then Arithmetic.one else -Arithmetic.one
  let (column, factor) := p.dual row
  { name := source.name
    activity := activity
    slack := slack
    shadowPrice := direction * costs.coefficients[column] * factor + Arithmetic.zero
    binding := Arithmetic.le (Arithmetic.abs slack)
      (bindingTolerance * (Arithmetic.one + Arithmetic.abs source.bound)) }

/-- The solution that an optimal tableau holds. -/
@[specialize] def Problem.solution (p : Problem α) (tolerance : α) (t : Tableau α p.shape)
    (iterations : Nat) : Solution α :=
  let values := t.values tolerance
  { values := values
    objective := (if p.maximize then t.costs.bound else -t.costs.bound) + Arithmetic.zero
    iterations := iterations
    rows := (List.finRange p.shape.rows).map (p.rowReport t.costs values) }

end Baggage.LinearProgram

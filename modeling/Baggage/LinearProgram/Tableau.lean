import Baggage.LinearProgram.Problem

/-!
# Baggage.LinearProgram.Tableau

The **simplex tableau**: a system of equations over the columns of a problem, each solved for one
*basic* column, together with the objective's *costs* expressed in the other columns. The columns
are the problem's variables, then one slack for each row, then the artificial columns.

A step of the simplex method chooses an entering column (`entering?`, the leftmost whose cost is
negative) and a leaving row (`leaving?`, the first of least ratio), and exchanges the two by
`pivot`. The number of rows and columns is part of a tableau's type, so a step cannot reach
outside of it.
-/

namespace Baggage.LinearProgram

/-- How many columns of each kind a tableau has. -/
structure Shape where
  /-- The variables of the problem. -/
  variableCount : Nat
  /-- The rows of the problem, each with a slack column. -/
  rows : Nat
  /-- The artificial columns. -/
  artificials : Nat
  deriving DecidableEq, Repr

namespace Shape

/-- The columns that belong to the problem: its variables and the slacks. -/
@[reducible] def proper (s : Shape) : Nat := s.variableCount + s.rows

/-- All columns. -/
@[reducible] def columns (s : Shape) : Nat := s.variableCount + s.rows + s.artificials

/-- The column of a variable. -/
@[inline] def variableColumn (s : Shape) (index : Fin s.variableCount) : Fin s.columns :=
  ⟨index, Nat.lt_of_lt_of_le index.isLt
    (Nat.le_trans (Nat.le_add_right _ _) (Nat.le_add_right _ _))⟩

/-- The slack column of a row. -/
@[inline] def slackColumn (s : Shape) (row : Fin s.rows) : Fin s.columns :=
  ⟨s.variableCount + row,
    Nat.lt_of_lt_of_le (Nat.add_lt_add_left row.isLt _) (Nat.le_add_right _ _)⟩

/-- The artificial column with a number. -/
@[inline] def artificialColumn (s : Shape) (index : Fin s.artificials) : Fin s.columns :=
  ⟨s.proper + index, Nat.add_lt_add_left index.isLt _⟩

end Shape

/-- A linear equation over `n` columns. -/
structure Equation (α : Type) (n : Nat) where
  /-- The coefficient of each column. -/
  coefficients : Vector α n
  /-- The right-hand side. -/
  bound : α

namespace Equation

variable {α : Type} [Arithmetic α] {n : Nat}

/-- Divides an equation by a number, unless it is one. -/
@[specialize] def divide (e : Equation α n) (divisor : α) : Equation α n :=
  if Arithmetic.eq divisor Arithmetic.one then e
  else ⟨e.coefficients.map fun x => x / divisor, e.bound / divisor⟩

/-- Subtracts a multiple of another equation, unless the factor is zero. -/
@[specialize] def eliminate (e other : Equation α n) (factor : α) : Equation α n :=
  if Arithmetic.eq factor Arithmetic.zero then e
  else
    ⟨Vector.zipWith (fun x y => x - factor * y) e.coefficients other.coefficients,
      e.bound - factor * other.bound⟩

/-- Subtracts another equation. -/
@[specialize] def subtract (e other : Equation α n) : Equation α n :=
  ⟨Vector.zipWith (fun x y => x - y) e.coefficients other.coefficients, e.bound - other.bound⟩

end Equation

/-- A simplex tableau. -/
structure Tableau (α : Type) (s : Shape) where
  /-- The costs of the columns; the right-hand side is the negated value of the objective. -/
  costs : Equation α s.columns
  /-- The equations, one for each row of the problem. -/
  equations : Vector (Equation α s.columns) s.rows
  /-- The column that each equation is solved for. -/
  basis : Vector (Fin s.columns) s.rows

namespace Tableau

variable {α : Type} [Arithmetic α] {s : Shape}

/-- The entry of a row in a column. -/
@[inline] def entry (t : Tableau α s) (row : Fin s.rows) (column : Fin s.columns) : α :=
  t.equations[row].coefficients[column]

/-- The right-hand side of a row. -/
@[inline] def bound (t : Tableau α s) (row : Fin s.rows) : α := t.equations[row].bound

/-- The column that a row is solved for. -/
@[inline] def basicColumn (t : Tableau α s) (row : Fin s.rows) : Fin s.columns := t.basis[row]

/-- The costs with every basic column eliminated from them, row after row. -/
@[specialize] def priceOut (costs : Equation α s.columns) (t : Tableau α s) :
    Equation α s.columns :=
  (List.finRange s.rows).foldl
    (fun priced row =>
      priced.eliminate t.equations[row] priced.coefficients[t.basicColumn row]) costs

/-- The costs less the equations that are solved for an artificial column, row after row. Where
every artificial column costs one and no other column costs anything, this prices out the basic
columns. -/
@[specialize] def priceArtificial (costs : Equation α s.columns) (t : Tableau α s) :
    Equation α s.columns :=
  (List.finRange s.rows).foldl
    (fun priced row =>
      if (t.basicColumn row).val < s.proper then priced else priced.subtract t.equations[row]) costs

/-- Solves the equation of a row for a column and eliminates that column everywhere else. -/
@[specialize] def pivot (t : Tableau α s) (row : Fin s.rows) (column : Fin s.columns) :
    Tableau α s :=
  let solved := t.equations[row].divide (t.entry row column)
  { costs := t.costs.eliminate solved t.costs.coefficients[column]
    equations := t.equations.mapIdx fun i e =>
      if i = row.val then solved else e.eliminate solved e.coefficients[column]
    basis := t.basis.set row column }

/-- The leftmost column below `limit` whose cost is more than `tolerance` below zero. -/
@[specialize] def entering? (tolerance : α) (limit : Nat) (t : Tableau α s) :
    Option (Fin s.columns) :=
  (List.finRange s.columns).find? fun column =>
    column.val < limit && Arithmetic.lt t.costs.coefficients[column] (-tolerance)

/-- Compares one more row with the best one so far: its entry must exceed the tolerance, and its
ratio must be smaller. -/
@[specialize] def betterRow (tolerance : α) (t : Tableau α s) (column : Fin s.columns)
    (best : Option (Fin s.rows × α)) (row : Fin s.rows) : Option (Fin s.rows × α) :=
  let entry := t.entry row column
  if Arithmetic.le entry tolerance then best
  else
    let ratio := t.bound row / entry
    match best with
    | none => if Arithmetic.isBelowInfinity ratio then some (row, ratio) else none
    | some (_, least) => if Arithmetic.lt ratio least then some (row, ratio) else best

/-- The first row of least ratio between its right-hand side and its entry in a column, among the
rows whose entry exceeds the tolerance. -/
@[specialize] def leaving? (tolerance : α) (t : Tableau α s) (column : Fin s.columns) :
    Option (Fin s.rows) :=
  ((List.finRange s.rows).foldl (t.betterRow tolerance column) none).map Prod.fst

/-- What the simplex method does next. -/
inductive Move (s : Shape) where
  /-- Nothing: no cost is negative. -/
  | optimal
  /-- Nothing: the entering column is bounded by no row. -/
  | unbounded (column : Fin s.columns)
  /-- Exchange the basic column of a row for another one. -/
  | pivot (row : Fin s.rows) (column : Fin s.columns)

/-- The next move in a tableau, when only columns below `limit` may enter. -/
@[specialize] def move (tolerance : α) (limit : Nat) (t : Tableau α s) : Move s :=
  match t.entering? tolerance limit with
  | none => .optimal
  | some column =>
    match t.leaving? tolerance column with
    | none => .unbounded column
    | some row => .pivot row column

end Tableau

end Baggage.LinearProgram

import Baggage.LinearProgram.Tableau

/-!
# Baggage.LinearProgram.Start

The **starting tableau** of a problem. A row with a negative bound is first *turned*: both sides
are negated and its relation reversed, so that every bound is at least zero. A turned upper bound
starts with its slack as the basic column. Every other row gets an artificial column to start
from, numbered in the order of the rows; its slack counts negatively for a lower bound and not at
all for an equation.

`dual` names the column from whose final cost the shadow price of a row is read, and the factor
that undoes the turning.
-/

namespace Baggage.LinearProgram

namespace Row

variable {α : Type} [Arithmetic α]

/-- Whether both sides are negated in the tableau. -/
@[inline] def isTurned (row : Row α) : Bool := Arithmetic.lt row.bound Arithmetic.zero

/-- The factor that both sides are multiplied by. -/
@[inline] def turn (row : Row α) : α :=
  if row.isTurned then -Arithmetic.one else Arithmetic.one

/-- The relation of the turned row. -/
@[inline] def turnedRelation (row : Row α) : Relation :=
  if row.isTurned then row.relation.reverse else row.relation

/-- Whether the turned row needs an artificial column to start from. -/
@[inline] def needsArtificial (row : Row α) : Bool := row.turnedRelation ≠ .atMost

/-- The coefficient of its own slack in the turned row. -/
@[inline] def slackCoefficient (row : Row α) : α :=
  match row.turnedRelation with
  | .atMost => Arithmetic.one
  | .atLeast => -Arithmetic.one
  | .equal => Arithmetic.zero

end Row

namespace Problem

variable {α : Type} [Arithmetic α]

/-- How many columns the tableau of a problem has. -/
@[reducible] def shape (p : Problem α) : Shape :=
  ⟨p.variableCount, p.rows.length, p.rows.countP Row.needsArtificial⟩

/-- How many rows before a given one need an artificial column. -/
@[specialize] def artificialsBefore (p : Problem α) (row : Nat) : Nat :=
  (p.rows.take row).countP Row.needsArtificial

/-- A row that needs an artificial column finds one left over by the rows before it. -/
theorem artificialsBefore_lt (p : Problem α) (row : Fin p.rows.length)
    (needed : p.rows[row].needsArtificial = true) :
    p.artificialsBefore row < p.shape.artificials := by
  have next : (p.rows.take (row + 1)).countP Row.needsArtificial
      = p.artificialsBefore row + 1 := by
    rw [List.take_succ_eq_append_getElem row.isLt, List.countP_append, artificialsBefore,
      List.countP_singleton, if_pos (by simpa using needed)]
  have total : (p.rows.take (row + 1)).countP Row.needsArtificial ≤ p.shape.artificials :=
    List.Sublist.countP_le (List.take_sublist _ _)
  omega

/-- The column that a row starts from: its artificial column if it needs one, else its slack. -/
@[specialize] def startColumn (p : Problem α) (row : Fin p.shape.rows) : Fin p.shape.columns :=
  if needed : (p.rows.get row).needsArtificial = true then
    p.shape.artificialColumn ⟨p.artificialsBefore row, p.artificialsBefore_lt row needed⟩
  else p.shape.slackColumn row

/-- The turned row of the problem as an equation over all columns. -/
@[specialize] def startEquation (p : Problem α) (row : Fin p.shape.rows) :
    Equation α p.shape.columns :=
  let source := p.rows.get row
  let turn := source.turn
  let coefficients := source.coefficients.toArray
  let variableCount := p.variableCount
  let slack := p.shape.slackColumn row
  let start := p.startColumn row
  { coefficients := Vector.ofFn fun column =>
      if column.val < variableCount then turn * coefficients.getD column Arithmetic.zero
      else if column = slack then source.slackCoefficient
      else if column = start then Arithmetic.one
      else Arithmetic.zero
    bound := turn * source.bound }

/-- The costs of the problem's own objective. A maximum is found as the minimum of the negated
objective. -/
@[specialize] def startCosts (p : Problem α) : Equation α p.shape.columns :=
  let sign : α := if p.maximize then -Arithmetic.one else Arithmetic.one
  let objective := p.objective.toArray
  let variableCount := p.variableCount
  { coefficients := Vector.ofFn fun column =>
      if column.val < variableCount then sign * objective.getD column Arithmetic.zero
      else Arithmetic.zero
    bound := Arithmetic.zero }

/-- The costs under which the artificial columns add up to the objective. -/
@[specialize] def artificialCosts (p : Problem α) : Equation α p.shape.columns :=
  let proper := p.shape.proper
  { coefficients := Vector.ofFn fun column =>
      if column.val < proper then Arithmetic.zero else Arithmetic.one
    bound := Arithmetic.zero }

/-- The starting tableau. -/
@[specialize] def start (p : Problem α) : Tableau α p.shape :=
  { costs := p.startCosts
    equations := Vector.ofFn p.startEquation
    basis := Vector.ofFn p.startColumn }

/-- The column whose final cost gives the shadow price of a row, and the factor to apply. -/
@[specialize] def dual (p : Problem α) (row : Fin p.shape.rows) : Fin p.shape.columns × α :=
  let source := p.rows.get row
  match source.turnedRelation with
  | .atMost => (p.shape.slackColumn row, source.turn)
  | .atLeast => (p.shape.slackColumn row, -source.turn)
  | .equal => (p.startColumn row, source.turn)

end Problem

end Baggage.LinearProgram

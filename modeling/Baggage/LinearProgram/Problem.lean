import Baggage.Arithmetic
import Baggage.Decimal.Layout

/-!
# Baggage.LinearProgram.Problem

**Linear programs** over variables that are never negative: an objective to maximise or minimise,
and named rows that bound a combination of the variables from above, from below, or from both
sides at once.

A problem is a description and may be malformed; `Problem.fault?` finds the first reason why it
cannot be solved. In *standard form* every row is an upper bound that is not negative, so that the
origin meets all of them; the *general* form allows every relation and every sign.
-/

namespace Baggage.LinearProgram

/-- How the left-hand side of a row relates to its bound. -/
inductive Relation where
  /-- At most the bound. -/
  | atMost
  /-- At least the bound. -/
  | atLeast
  /-- Exactly the bound. -/
  | equal
  deriving DecidableEq, Repr

/-- The relation that holds once both sides are negated. -/
def Relation.reverse : Relation → Relation
  | atMost => atLeast
  | atLeast => atMost
  | equal => equal

/-- One named row of a problem. -/
structure Row (α : Type) where
  /-- The label under which the row is reported. -/
  name : String
  /-- The coefficient of each variable. -/
  coefficients : List α
  /-- How the combination relates to the bound. -/
  relation : Relation
  /-- The right-hand side. -/
  bound : α

/-- A linear program. -/
structure Problem (α : Type) where
  /-- The objective's coefficient of each variable. -/
  objective : List α
  /-- Whether the objective is to be as large as possible, or as small. -/
  maximize : Bool
  /-- The rows, in the order in which they are reported. -/
  rows : List (Row α)

/-- Why a problem is not accepted. -/
inductive Fault (α : Type) where
  /-- There are as many rows of coefficients as `rows`, but as many bounds as `bounds`. -/
  | boundCount (rows bounds : Nat)
  /-- The objective's coefficient of a variable is not finite. -/
  | objectiveCoefficient (index : Nat)
  /-- A row does not have one coefficient for each variable. -/
  | rowLength (row : String) (found expected : Nat)
  /-- A coefficient or the bound of a row is not finite. -/
  | rowNumber (row : String)
  /-- A row is no upper bound, in standard form. -/
  | rowRelation (row : String)
  /-- The bound of a row is negative, in standard form. -/
  | negativeBound (row : String) (bound : α)
  deriving DecidableEq

/-- The wording of a fault. -/
def Fault.message : Fault Float → String
  | boundCount rows bounds =>
    toString rows ++ " constraint rows but " ++ toString bounds ++ " right-hand side values"
  | objectiveCoefficient index =>
    "objective coefficient " ++ toString index ++ " is not a finite number"
  | rowLength row found expected =>
    "constraint " ++ row ++ " has " ++ toString found ++ " coefficients, expected "
      ++ toString expected
  | rowNumber row => "constraint " ++ row ++ " contains a non-finite value"
  | rowRelation row =>
    "constraint " ++ row ++ " is not a <= row; enable phase one to solve it"
  | negativeBound row bound =>
    "constraint " ++ row ++ " has negative right-hand side "
      ++ Decimal.Layout.message.write bound ++ "; enable phase one to solve it"

namespace Problem

variable {α : Type}

/-- The number of variables. -/
def variableCount (p : Problem α) : Nat := p.objective.length

/-- A problem with one more row, after the others. -/
def addRow (p : Problem α) (row : Row α) : Problem α := { p with rows := p.rows ++ [row] }

/-- Rows that bound from above, named `c1`, `c2`, … in order. -/
def numberedRows (coefficients : List (List α)) (bounds : List α) : List (Row α) :=
  (List.zip coefficients bounds).mapIdx fun i (row, bound) =>
    ⟨"c" ++ toString (i + 1), row, .atMost, bound⟩

/-- The problem with the rows `coefficients · x ≤ bounds`, numbered from one. -/
def ofDense (objective : List α) (coefficients : List (List α)) (bounds : List α)
    (maximize : Bool) : Except (Fault α) (Problem α) :=
  if coefficients.length = bounds.length then
    .ok ⟨objective, maximize, numberedRows coefficients bounds⟩
  else .error (.boundCount coefficients.length bounds.length)

variable [Arithmetic α]

/-- The value of the objective at a point. -/
def evaluate (p : Problem α) (values : List α) : α := Arithmetic.dot p.objective values

/-- The first fault of a row in a problem of so many variables. -/
def rowFault? (general : Bool) (variableCount : Nat) (row : Row α) : Option (Fault α) :=
  if row.coefficients.length ≠ variableCount then
    some (.rowLength row.name row.coefficients.length variableCount)
  else if !(row.coefficients.all Arithmetic.isFinite && Arithmetic.isFinite row.bound) then
    some (.rowNumber row.name)
  else if general then none
  else if row.relation ≠ .atMost then some (.rowRelation row.name)
  else if Arithmetic.lt row.bound Arithmetic.zero then some (.negativeBound row.name row.bound)
  else none

/-- The first fault of a problem: of its objective, then of its rows in order. -/
def fault? (general : Bool) (p : Problem α) : Option (Fault α) :=
  match p.objective.findIdx? fun c => !Arithmetic.isFinite c with
  | some index => some (.objectiveCoefficient index)
  | none => p.rows.findSome? (rowFault? general p.variableCount)

end Problem

end Baggage.LinearProgram

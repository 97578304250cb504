import Baggage.Arithmetic

/-!
# Baggage.Selection.Knapsack

The **exact choice** of pieces under two budgets, a weight and a number of pieces, by dynamic
programming. Weights are cut into steps of a hundredth of a kilogram, rounded up for the pieces
and down for the budget, in both cases less a slack of a millionth of a step.

A `Grid` has one cell for each number of pieces and each weight in steps. Its cells are filled
with the best value that can be reached within them, one piece after the other (`Grid.add`), and
each piece leaves marks on the cells that it improves. The cells are updated in place, from the last
one down (`Grid.sweep`). From the last cell backwards the marks then tell which pieces the best
choice consists of (`Grid.recover`).
-/

namespace Baggage.Selection

/-- A piece of luggage. -/
structure Piece (α : Type) where
  /-- What it weighs, in kilograms. -/
  weight : α
  /-- What keeping it is worth. -/
  value : α

/-! ### Steps -/

section Steps

variable {α : Type} [Arithmetic α]

/-- Rounding is relaxed by this much, so that a weight that is meant to be a whole number of steps
is not taken for a little more. -/
@[inline] def stepSlack : α := Arithmetic.ofDecimal (.scaled 1 6)

/-- The steps in a kilogram. -/
@[inline] def stepsPerKilogram : α := Arithmetic.ofNat 100

/-- The steps that a piece of this weight takes up. -/
def stepsOf (weight : α) : Nat := (Arithmetic.exact (weight * stepsPerKilogram - stepSlack)).ceil

/-- The steps that a weight budget offers. -/
def stepsWithin (maxWeight : α) : Nat :=
  (Arithmetic.exact (maxWeight * stepsPerKilogram + stepSlack)).floor

end Steps

/-! ### The grid -/

/-- The size of a table over the two budgets. -/
structure Grid where
  /-- The most pieces that can be kept. -/
  pieces : Nat
  /-- The steps that their weights may add up to. -/
  capacity : Nat
  deriving DecidableEq, Repr

namespace Grid

/-- The cells for one number of pieces. -/
def width (g : Grid) : Nat := g.capacity + 1

/-- All cells. -/
def layer (g : Grid) : Nat := (g.pieces + 1) * g.width

/-- The cell of at most `pieces` pieces within `steps` steps. -/
def cell (g : Grid) (pieces steps : Nat) : Nat := pieces * g.width + steps

/-- The largest number of marks that is worth keeping. -/
def cellLimit : Nat := 20000000

/-- Whether the marks of so many pieces fit. -/
def isTractable (g : Grid) (pieces : Nat) : Bool :=
  g.layer ≤ cellLimit && pieces * g.layer ≤ cellLimit

variable {α : Type} [Arithmetic α]

/-- The value of a cell with one more piece, if the cell has room for the piece and becomes strictly
better by it. -/
@[inline] def improvement? (g : Grid) (steps : Nat) (value : α) (best : Vector α g.layer)
    (cell : Nat) (inside : cell < g.layer) : Option α :=
  if g.width ≤ cell && steps ≤ cell % g.width then
    let candidate := best[cell - g.width - steps] + value
    if Arithmetic.lt best[cell] candidate then some candidate else none
  else none

/-- Tries one more piece in the cells below `cells`, from the last one down, and marks the cells
that take it. What a cell is improved from stands further down and has not been changed yet. -/
@[specialize] def sweep (g : Grid) (steps : Nat) (value : α) :
    (cells : Nat) → cells ≤ g.layer → Vector α g.layer → Vector Bool g.layer →
      Vector α g.layer × Vector Bool g.layer
  | 0, _, best, marks => (best, marks)
  | cell + 1, inside, best, marks =>
    match g.improvement? steps value best cell inside with
    | none => sweep g steps value cell (Nat.le_of_lt inside) best marks
    | some better =>
      sweep g steps value cell (Nat.le_of_lt inside) (best.set cell better) (marks.set cell true)

/-- The values after one more piece, and the cells that take it. -/
@[inline] def add (g : Grid) (steps : Nat) (value : α) (best : Vector α g.layer) :
    Vector α g.layer × Vector Bool g.layer :=
  g.sweep steps value g.layer (Nat.le_refl _) best (Vector.replicate g.layer false)

/-- Whether a piece is worth anything and fits at all. -/
@[inline] def considers (g : Grid) (steps : Nat) (value : α) : Bool :=
  !(Arithmetic.le value Arithmetic.zero) && steps ≤ g.capacity

/-- Adds the pieces one after the other. The result holds the steps and the marks of each piece,
the last one in front; a piece that was not considered has no marks. -/
@[specialize] def fill (g : Grid) (best : Vector α g.layer)
    (filled : List (Nat × Option (Vector Bool g.layer))) :
    List (Piece α) → List (Nat × Option (Vector Bool g.layer))
  | [] => filled
  | piece :: rest =>
    let steps := stepsOf piece.weight
    if g.considers steps piece.value then
      let (best, marks) := g.add steps piece.value best
      fill g best ((steps, some marks) :: filled) rest
    else fill g best ((steps, none) :: filled) rest

/-- Follows the marks back from a cell: which pieces were taken on the way to it, the first one in
front. -/
def recover (g : Grid) (pieces steps : Nat) (kept : List Bool) :
    List (Nat × Option (Vector Bool g.layer)) → List Bool
  | [] => kept
  | (taken, marks) :: rest =>
    if 0 < pieces && marks.any fun marks => marks[g.cell pieces steps]?.getD false then
      recover g (pieces - 1) (steps - taken) (true :: kept) rest
    else recover g pieces steps (false :: kept) rest

/-- Which pieces the best choice keeps. -/
@[specialize] def choose (g : Grid) (pieces : List (Piece α)) : List Bool :=
  g.recover g.pieces g.capacity [] (g.fill (Vector.replicate g.layer Arithmetic.zero) [] pieces)

/-- The grid for a list of pieces under two budgets. -/
def ofBudgets (pieces : List (Piece α)) (maxWeight : α) (maxPieces : Nat) : Grid :=
  ⟨min maxPieces pieces.length, stepsWithin maxWeight⟩

end Grid

/-- Which pieces to keep so that their value is greatest within both budgets, unless the table for
it would be too large. -/
@[specialize] def knapsack? {α : Type} [Arithmetic α] (pieces : List (Piece α)) (maxWeight : α)
    (maxPieces : Nat) : Option (List Bool) :=
  let grid := Grid.ofBudgets pieces maxWeight maxPieces
  if grid.isTractable pieces.length then some (grid.choose pieces) else none

end Baggage.Selection

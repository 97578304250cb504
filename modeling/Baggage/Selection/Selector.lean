import Baggage.LinearProgram.Solver
import Baggage.Selection.Knapsack

/-!
# Baggage.Selection.Selector

Choosing **which pieces to keep** under a weight budget and a piece budget. A `Selector` is made
from weights, values and a budget that `Selector.create` has checked. The default strategy solves
the relaxation of the choice as a linear program and keeps each piece whose share exceeds a half;
two fractional pieces may then both be kept and exceed the weight budget, which the excess charge
bills. The exact strategy stays within both budgets, the weight taken in steps.
-/

namespace Baggage.Selection

open LinearProgram (Problem SolveError Solver)

/-- What a choice of pieces is limited by. -/
structure Budget (α : Type) where
  /-- The weight allowed, in kilograms. -/
  maxWeight : α
  /-- The number of pieces allowed. -/
  maxPieces : Nat
  /-- The price before any excess. -/
  basePrice : α

/-- Why a choice is refused before it is made. -/
inductive Fault (α : Type) where
  /-- There are not as many values as weights. -/
  | lengths (weights values : Nat)
  /-- The weight of a piece is negative or not finite. -/
  | pieceWeight (index : Nat)
  /-- The value of a piece is not finite. -/
  | pieceValue (index : Nat)
  /-- The weight budget is negative or not finite. -/
  | maxWeight
  /-- The base price is not finite. -/
  | basePrice
  /-- The table of the exact strategy would have too many cells. -/
  | tooLarge (pieces : Nat) (maxWeight : α)

/-- The wording of a fault. -/
def Fault.message : Fault Float → String
  | lengths weights values => toString weights ++ " weights but " ++ toString values ++ " values"
  | pieceWeight index => "weight of piece " ++ toString index ++ " must be a non-negative number"
  | pieceValue index => "value of piece " ++ toString index ++ " must be a finite number"
  | maxWeight => "maxWeight must be a non-negative number"
  | basePrice => "basePrice must be a finite number"
  | tooLarge pieces limit =>
    "selection of " ++ toString pieces ++ " pieces within "
      ++ Decimal.Layout.message.write limit ++ " kg is too large for exact solving"

/-- Why no choice was made. -/
inductive SelectionError (α : Type) where
  /-- The choice is refused. -/
  | refused (fault : Fault α)
  /-- The relaxation was not solved. -/
  | unsolved (error : SolveError α)

/-- The wording of a selection error. -/
def SelectionError.message : SelectionError Float → String
  | refused fault => fault.message
  | unsolved error => error.message

/-- A choice of pieces, with its totals. -/
structure Choice (α : Type) where
  /-- For each piece, whether it is kept. -/
  kept : List Bool
  /-- The weight of the kept pieces. -/
  weight : α
  /-- The value of the kept pieces. -/
  value : α
  /-- The number of the kept pieces. -/
  pieces : Nat
  /-- The charge for the weight above the budget. -/
  excessCharge : α

/-- The positions of the kept pieces. -/
def Choice.indices {α : Type} (choice : Choice α) : List Nat :=
  (choice.kept.zipIdx.filter Prod.fst).map Prod.snd

/-- Chooses among pieces that were checked. -/
structure Selector (α : Type) where
  /-- The pieces to choose from. -/
  pieces : List (Piece α)
  /-- What the choice is limited by. -/
  budget : Budget α
  /-- How the choice is made. -/
  strategy : Strategy
  /-- The charge for each kilogram above the weight budget. -/
  excessRate : α
  /-- The solver of the relaxation. -/
  solver : Solver α

namespace Selector

variable {α : Type} [Arithmetic α]

/-- The charge for each kilogram of excess where nothing else is asked for. -/
def standardExcessRate : α := Arithmetic.ofNat 25

/-- Neither negative nor infinite nor undefined. -/
@[inline] def isAmount (x : α) : Bool := Arithmetic.isFinite x && !Arithmetic.lt x Arithmetic.zero

/-- The first reason to refuse weights, values and a budget. -/
def fault? (weights values : List α) (budget : Budget α) : Option (Fault α) :=
  if weights.length ≠ values.length then some (.lengths weights.length values.length)
  else
    match weights.findIdx? fun w => !isAmount w with
    | some index => some (.pieceWeight index)
    | none =>
      match values.findIdx? fun v => !Arithmetic.isFinite v with
      | some index => some (.pieceValue index)
      | none =>
        if !isAmount budget.maxWeight then some .maxWeight
        else if !Arithmetic.isFinite budget.basePrice then some .basePrice
        else none

/-- A selector for pieces with these weights and values, with the standard strategy, excess rate
and solver. -/
def create (weights values : List α) (budget : Budget α) : Except (Fault α) (Selector α) :=
  match fault? weights values budget with
  | some fault => .error fault
  | none =>
    .ok ⟨List.zipWith Piece.mk weights values, budget, .relaxation, standardExcessRate,
      .standard⟩

/-- The relaxation of the choice: keep shares of the pieces, as valuable as possible, within the
weight row and the row that counts the pieces. -/
def relaxation (s : Selector α) : Problem α :=
  { objective := s.pieces.map Piece.value
    maximize := true
    rows :=
      [⟨"weight", s.pieces.map Piece.weight, .atMost, s.budget.maxWeight⟩,
        ⟨"pieces", s.pieces.map fun _ => Arithmetic.one, .atMost,
          Arithmetic.ofNat s.budget.maxPieces⟩] }

/-- The share above which a piece is kept. -/
@[inline] def threshold : α := Arithmetic.ofDecimal (.scaled 5 1)

/-- The kept ones among the pieces. -/
def keptPieces (pieces : List (Piece α)) (kept : List Bool) : List (Piece α) :=
  ((List.zip kept pieces).filter Prod.fst).map Prod.snd

/-- The weight above the budget. -/
def excessWeight (s : Selector α) (weight : α) : α :=
  Arithmetic.positivePart (weight - s.budget.maxWeight)

/-- A choice with its totals, each added up from zero in the order of the pieces. -/
def total (s : Selector α) (kept : List Bool) : Choice α :=
  let pieces := keptPieces s.pieces kept
  let weight := (pieces.map Piece.weight).foldl Arithmetic.add Arithmetic.zero
  { kept := kept
    weight := weight
    value := (pieces.map Piece.value).foldl Arithmetic.add Arithmetic.zero
    pieces := pieces.length
    excessCharge := s.excessWeight weight * s.excessRate }

/-- Which pieces the strategy keeps. -/
@[specialize] def keep (s : Selector α) : Logged α (Except (SelectionError α) (List Bool)) :=
  match s.strategy with
  | .relaxation =>
    (s.solver.solve s.relaxation).map fun
      | .ok solution => .ok (solution.values.map fun x => Arithmetic.lt threshold x)
      | .error e => .error (.unsolved e)
  | .exact =>
    match knapsack? s.pieces s.budget.maxWeight s.budget.maxPieces with
    | some kept => .quiet (.ok kept)
    | none => .quiet (.error (.refused (.tooLarge s.pieces.length s.budget.maxWeight)))

/-- Makes the choice. -/
@[specialize] def choose (s : Selector α) : Logged α (Except (SelectionError α) (Choice α)) :=
  s.keep.andThen fun
    | .error e => .quiet (.error e)
    | .ok kept =>
      let choice := s.total kept
      ⟨.ok choice, [.selected s.strategy choice.pieces choice.weight choice.excessCharge]⟩

end Selector

end Baggage.Selection

import Baggage.Service.Failure

/-!
# Baggage.Service.Simplex

**Linear programs for clients.** A request gives an objective, rows of coefficients that bound
from above, and one bound for each row; it may ask for the least value instead of the greatest.
`readProblem` reports the first fault in the order: missing parts, parts that are no arrays, the
direction, the objective, the rows, the bounds, and last the number of rows and bounds.
-/

namespace Baggage.Service

open LinearProgram (Problem Solution Solver)

/-- A number at a position of a list. -/
def readNumber (place : Place) : Json × Nat → Except RequestFault Float
  | (item, index) =>
    match item.float? with
    | some x => .ok x
    | none => .error (.notNumber place index)

/-- A list of numbers. -/
def readNumbers (place : Place) (items : List Json) : Except RequestFault (List Float) :=
  items.zipIdx.mapM (readNumber place)

/-- A row of coefficients at a position. -/
def readRow : Json × Nat → Except RequestFault (List Float)
  | (item, index) =>
    match item.array? with
    | some items => readNumbers (.row index) items
    | none => .error (.notRow index)

/-- Whether the greatest value is asked for, as it is where nothing is said. -/
def readDirection : Option Json → Except RequestFault Bool
  | none => .ok true
  | some (.bool maximize) => .ok maximize
  | some _ => .error .notDirection

/-- The linear program of a request whose parts are arrays. -/
def readParts (direction : Option Json) (objective rows bounds : List Json) :
    Except RequestFault (Problem Float) := do
  let maximize ← readDirection direction
  let objective ← readNumbers .objective objective
  let rows ← rows.zipIdx.mapM readRow
  let bounds ← readNumbers .bounds bounds
  match Problem.ofDense objective rows bounds maximize with
  | .ok p => return p
  | .error fault => .error (.unfit fault)

/-- The linear program that a body describes. -/
def readProblem (body : Json) : Except RequestFault (Problem Float) :=
  match body.present? "objective", body.present? "constraints", body.present? "b" with
  | some objective, some rows, some bounds =>
    match objective.array?, rows.array?, bounds.array? with
    | some objective, some rows, some bounds =>
      readParts (body.present? "isMaximization") objective rows bounds
    | _, _, _ => .error .notArrays
  | _, _, _ => .error .missing

/-- Solves the linear program that a body describes. That an accepted program was not solved is
reported; a faulty request is not. -/
def solve (solver : Solver Float) (body : Json) : Logged Float (Except Failure (Solution Float)) :=
  match readProblem body with
  | .error fault => .quiet (.error (.unintelligible fault))
  | .ok p =>
    (solver.solve p).andThen fun
      | .ok solution => .quiet (.ok solution)
      | .error e =>
        ⟨.error (.unsolved e), if e.isInvalid then [] else [.requestFailed e.message]⟩

end Baggage.Service

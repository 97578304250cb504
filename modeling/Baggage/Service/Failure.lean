import Baggage.Fare.Quote
import Baggage.Json.Reader
import Baggage.LinearProgram.Solver

/-!
# Baggage.Service.Failure

Why a client of the service gets **no result**: its body cannot be read, its request has the wrong
form, or what it asks for has no answer. A failure is the client's own (status 400) unless an
accepted linear program could not be solved (status 500).
-/

namespace Baggage.Service

open LinearProgram (SolveError)

/-- The list of numbers in a request for a linear program that a number belongs to. -/
inductive Place where
  /-- The objective. -/
  | objective
  /-- A row of coefficients. -/
  | row (index : Nat)
  /-- The bounds of the rows. -/
  | bounds
  deriving DecidableEq, Repr

/-- The name of a row of coefficients. -/
def rowName (index : Nat) : String := "constraints[" ++ toString index ++ "]"

/-- The name of a list of numbers. -/
def Place.name : Place → String
  | objective => "objective"
  | row index => rowName index
  | bounds => "b"

/-- Why a body describes no linear program. -/
inductive RequestFault where
  /-- The objective, the rows or the bounds are missing. -/
  | missing
  /-- The objective, the rows or the bounds are no array. -/
  | notArrays
  /-- The direction is no truth value. -/
  | notDirection
  /-- An item of a list of numbers is no number. -/
  | notNumber (place : Place) (index : Nat)
  /-- A row of coefficients is no array. -/
  | notRow (index : Nat)
  /-- The parts do not fit together. -/
  | unfit (fault : LinearProgram.Fault Float)

/-- The wording of a request fault. -/
def RequestFault.message : RequestFault → String
  | missing => "Missing required parameters: objective, constraints, b"
  | notArrays => "Invalid input: objective, constraints, and b must be arrays"
  | notDirection => "Invalid input: isMaximization must be a boolean"
  | notNumber place index =>
    "Invalid input: " ++ place.name ++ "[" ++ toString index ++ "] must be a number"
  | notRow index => "Invalid input: " ++ rowName index ++ " must be an array"
  | unfit fault => (SolveError.invalid fault).message

/-- Why a body cannot be read. -/
inductive BodyFault where
  /-- It has too many bytes. -/
  | tooLarge
  /-- It is said to be JSON and is not. -/
  | malformed (error : Json.ReadError)

/-- The wording of a body fault. -/
def BodyFault.message : BodyFault → String
  | tooLarge => "Invalid request body: Failed to buffer the request body"
  | malformed error => "Invalid JSON body: " ++ error.message

/-- Why a client gets no result. -/
inductive Failure where
  /-- The body cannot be read. -/
  | unreadable (fault : BodyFault)
  /-- The body describes no linear program. -/
  | unintelligible (fault : RequestFault)
  /-- The linear program was not solved. -/
  | unsolved (error : SolveError Float)
  /-- The luggage was not priced. -/
  | unpriced (fault : Fare.Fault)

namespace Failure

/-- The wording of a failure. -/
def message : Failure → String
  | unreadable fault => fault.message
  | unintelligible fault => fault.message
  | unsolved error => error.message
  | unpriced fault => fault.message

/-- The status under which a failure is answered. -/
def status : Failure → Nat
  | unsolved error => if error.isInvalid then 400 else 500
  | _ => 400

/-- What the client is told: the wording and nothing else. -/
def toJson (f : Failure) : Json := .object [("message", .string f.message)]

theorem status_eq (f : Failure) : f.status = 400 ∨ f.status = 500 := by
  cases f with
  | unsolved error => cases h : error.isInvalid <;> simp [status, h]
  | unreadable _ => exact .inl rfl
  | unintelligible _ => exact .inl rfl
  | unpriced _ => exact .inl rfl

end Failure

end Baggage.Service

import Baggage.Fare.Allowance

/-!
# Baggage.Settings.Basic

The **settings** of the program, their standard values, and what makes them acceptable. Settings
that `Settings.fault?` passes have a positive tolerance, a pivot budget of at least one, and
amounts that are neither negative nor infinite.
-/

namespace Baggage

namespace Settings

/-- How events are logged. -/
structure Logging where
  /-- Which events are shown. -/
  level : String
  /-- The form of a line: `json`, or anything else for text. -/
  format : String

/-- Where the service listens. -/
structure Server where
  /-- The name or address of the host. -/
  host : String
  /-- The port. -/
  port : UInt16

/-- The host and the port together. -/
def Server.address (s : Server) : String := s.host ++ ":" ++ toString s.port.toNat

/-- How pieces are chosen. -/
structure Selecting (α : Type) where
  /-- The charge for each kilogram above the weight budget. -/
  excessRate : α
  /-- The strategy. -/
  strategy : Selection.Strategy

end Settings

/-- The settings of the program. -/
structure Settings (α : Type) where
  /-- How events are logged. -/
  logging : Settings.Logging
  /-- Where the service listens. -/
  server : Settings.Server
  /-- The solver of linear programs. -/
  solver : LinearProgram.Solver α
  /-- How pieces are chosen. -/
  selecting : Settings.Selecting α
  /-- The allowances of the travel classes. -/
  fares : Fare.Table α

namespace Settings

variable {α : Type} [Arithmetic α]

/-- The settings where nothing else is asked for. -/
def standard : Settings α :=
  { logging := ⟨"info", "pretty"⟩
    server := ⟨"0.0.0.0", 3000⟩
    solver := .standard
    selecting := ⟨Selection.Selector.standardExcessRate, .relaxation⟩
    fares := .standard }

/-- A setting with a value that is not acceptable. -/
structure Fault where
  /-- The name of the setting. -/
  field : String
  /-- What its value must be. -/
  reason : String
  deriving DecidableEq, Repr

/-- The wording of a fault. -/
def Fault.message (f : Fault) : String := "invalid value for " ++ f.field ++ ": " ++ f.reason

/-- What an amount must be. -/
def amountReason : String := "must be a non-negative number"

/-- The first amount of an allowance that is not acceptable. -/
def allowanceFault? (c : Fare.TravelClass) (a : Fare.Allowance α) : Option Fault :=
  let field := fun name => "fares." ++ c.name ++ "." ++ name
  if !Selection.Selector.isAmount a.standardLimit then
    some ⟨field "standard_limit", amountReason⟩
  else if !Selection.Selector.isAmount a.basePrice then some ⟨field "base_price", amountReason⟩
  else if !Selection.Selector.isAmount a.excessChargePerKg then
    some ⟨field "excess_charge_per_kg", amountReason⟩
  else none

/-- The first setting that is not acceptable: of the solver, of the selection, of the allowances. -/
def fault? (s : Settings α) : Option Fault :=
  if !Arithmetic.isFinite s.solver.tolerance
      || Arithmetic.le s.solver.tolerance Arithmetic.zero then
    some ⟨"solver.tolerance", "must be a positive number"⟩
  else if s.solver.maxIterations = some 0 then
    some ⟨"solver.max_iterations", "must be at least 1"⟩
  else if !Selection.Selector.isAmount s.selecting.excessRate then
    some ⟨"selection.excess_rate_per_kg", amountReason⟩
  else Fare.TravelClass.all.findSome? fun c => allowanceFault? c (s.fares.get c)

end Settings

end Baggage

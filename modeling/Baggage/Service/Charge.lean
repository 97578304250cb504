import Baggage.Service.Failure

/-!
# Baggage.Service.Charge

**Luggage charges for clients.** A request gives a weight above zero and the name of a class; the
weight is looked at first.
-/

namespace Baggage.Service

/-- The weight in a body: a number above zero. -/
def readWeight (body : Json) : Except Fare.Fault Float :=
  match (body.get? "luggageWeight").bind Json.float? with
  | some weight => if Arithmetic.lt 0.0 weight then .ok weight else .error .weight
  | none => .error .weight

/-- The class in a body. -/
def readTravelClass (body : Json) : Except Fare.Fault Fare.TravelClass :=
  match (body.get? "travelClass").bind Json.string? with
  | some name => Fare.readClass name
  | none => .error .travelClass

/-- Prices the luggage that a body describes. -/
def charge (fares : Fare.Table Float) (body : Json) : Except Failure (Fare.Quote Float) :=
  let quote : Except Fare.Fault (Fare.Quote Float) := do
    let weight ← readWeight body
    let travelClass ← readTravelClass body
    fares.quote weight travelClass
  quote.mapError .unpriced

end Baggage.Service

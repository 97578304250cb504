import Baggage.Fare.Allowance
import Baggage.Fare.Rupees

/-!
# Baggage.Fare.Quote

**Fares for excess luggage.** A `Quote` is the price of a weight in a class of travel, with the
numbers it is made of; its texts are functions of it.

A weight is priced by `Table.quote` if it is positive, and the weight of a selection by
`Table.quoteSelection`, where an empty selection pays the base price.
-/

namespace Baggage.Fare

/-- Why a fare is refused. -/
inductive Fault where
  /-- The weight is negative, not finite, or zero where it must not be. -/
  | weight
  /-- The name of the class is unknown. -/
  | travelClass
  deriving DecidableEq, Repr

/-- The wording of a fault. -/
def Fault.message : Fault → String
  | weight => "Invalid luggage weight"
  | travelClass => "Invalid travel class. Must be ECONOMY, BUSINESS, or FIRST"

/-- The class with exactly this name. -/
def readClass (name : String) : Except Fault TravelClass :=
  match TravelClass.ofName? name with
  | some c => .ok c
  | none => .error .travelClass

/-- The price of a weight in a class. -/
structure Quote (α : Type) where
  /-- The class of travel. -/
  travelClass : TravelClass
  /-- The weight that is priced. -/
  weight : α
  /-- The free weight of the class. -/
  limit : α
  /-- Whether the weight exceeds the free weight. -/
  isExcess : Bool
  /-- The weight above the free weight. -/
  excessWeight : α
  /-- The price before any excess. -/
  baseFare : α
  /-- The charge for the excess. -/
  excessCharge : α
  /-- The whole price. -/
  totalFare : α

namespace Table

variable {α : Type} [Arithmetic α]

/-- The price of a weight in a class, whatever the weight. -/
def price (t : Table α) (weight : α) (c : TravelClass) : Quote α :=
  let allowance := t.get c
  let excessWeight := Arithmetic.positivePart (weight - allowance.standardLimit)
  let excessCharge := excessWeight * allowance.excessChargePerKg
  { travelClass := c
    weight := weight
    limit := allowance.standardLimit
    isExcess := Arithmetic.lt allowance.standardLimit weight
    excessWeight := excessWeight
    baseFare := allowance.basePrice
    excessCharge := excessCharge
    totalFare := allowance.basePrice + excessCharge }

/-- The price of a traveller's luggage, whose weight must be positive. -/
def quote (t : Table α) (weight : α) (c : TravelClass) : Except Fault (Quote α) :=
  if !Arithmetic.isFinite weight || Arithmetic.le weight Arithmetic.zero then .error .weight
  else .ok (t.price weight c)

/-- The price of the kept pieces of a selection, whose weight must not be negative. -/
def quoteSelection (t : Table α) (choice : Selection.Choice α) (c : TravelClass) :
    Except Fault (Quote α) :=
  if !Arithmetic.isFinite choice.weight || Arithmetic.lt choice.weight Arithmetic.zero then
    .error .weight
  else .ok (t.price choice.weight c)

end Table

namespace Quote

/-- A weight as messages show it. -/
def kilograms (x : Float) : String := Decimal.Layout.message.write x ++ "kg"

/-- The decimals of an amount in a message. -/
def messagePlaces : Nat := 3

/-- What the traveller is told about the weight. -/
def message (q : Quote Float) : String :=
  if q.isExcess then
    "Warning: Luggage weight (" ++ kilograms q.weight ++ ") exceeds " ++ q.travelClass.name
      ++ " class limit of " ++ kilograms q.limit ++ ". Extra charge of ₹"
      ++ grouped messagePlaces (Arithmetic.exact q.excessCharge) ++ " applies."
  else
    "Luggage weight (" ++ kilograms q.weight ++ ") is within " ++ q.travelClass.name
      ++ " class limit of " ++ kilograms q.limit ++ ". No extra charges."

/-- What the traveller is told about the limit. -/
def limitMessage (q : Quote Float) : String :=
  "Maximum allowed weight for " ++ q.travelClass.name ++ " class is " ++ kilograms q.limit

variable {α : Type} [Arithmetic α]

/-- The base fare in rupees. -/
def baseFareText (q : Quote α) : String := rupees (Arithmetic.exact q.baseFare)

/-- The excess charge in rupees. -/
def excessChargeText (q : Quote α) : String := rupees (Arithmetic.exact q.excessCharge)

/-- The whole price in rupees. -/
def totalFareText (q : Quote α) : String := rupees (Arithmetic.exact q.totalFare)

end Quote

end Baggage.Fare

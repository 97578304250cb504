/-!
# Baggage.Fare.TravelClass

The **travel classes** and their names.
-/

namespace Baggage.Fare

/-- A class of travel. -/
inductive TravelClass where
  /-- Economy class. -/
  | economy
  /-- Business class. -/
  | business
  /-- First class. -/
  | first
  deriving DecidableEq, Repr

namespace TravelClass

/-- All classes, in the order in which they are listed. -/
def all : List TravelClass := [economy, business, first]

/-- The name of a class. -/
def name : TravelClass → String
  | economy => "ECONOMY"
  | business => "BUSINESS"
  | first => "FIRST"

/-- The class with exactly this name. -/
def ofName? (name : String) : Option TravelClass := all.find? fun c => c.name == name

@[simp] theorem ofName?_name (c : TravelClass) : ofName? c.name = some c := by
  cases c <;> decide

end TravelClass

end Baggage.Fare

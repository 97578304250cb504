import Baggage.Fare.TravelClass
import Baggage.Selection.Selector

/-!
# Baggage.Fare.Allowance

What each class of travel **includes**: a free weight, a number of pieces and a base price, and
the charge for each kilogram above the free weight. A `Table` has one allowance for each class.
-/

namespace Baggage.Fare

/-- What a class of travel includes and what more costs. -/
structure Allowance (α : Type) where
  /-- The weight that is free, in kilograms. -/
  standardLimit : α
  /-- The price before any excess. -/
  basePrice : α
  /-- The charge for each kilogram of excess. -/
  excessChargePerKg : α
  /-- The number of pieces. -/
  maxPieces : Nat

/-- The allowances of all classes. -/
structure Table (α : Type) where
  /-- The allowance of economy class. -/
  economy : Allowance α
  /-- The allowance of business class. -/
  business : Allowance α
  /-- The allowance of first class. -/
  first : Allowance α

/-- An allowance in whole numbers. -/
def Allowance.whole {α : Type} [Arithmetic α] (limit price charge pieces : Nat) : Allowance α :=
  ⟨Arithmetic.ofNat limit, Arithmetic.ofNat price, Arithmetic.ofNat charge, pieces⟩

namespace Table

/-- The standard allowances. -/
def standard {α : Type} [Arithmetic α] : Table α :=
  { economy := .whole 20 10000 1500 2
    business := .whole 30 25000 1750 2
    first := .whole 40 45000 2000 3 }

variable {α : Type}

/-- The allowance of a class. -/
def get (t : Table α) : TravelClass → Allowance α
  | .economy => t.economy
  | .business => t.business
  | .first => t.first

/-- The table with another allowance for a class. -/
def set (t : Table α) (c : TravelClass) (allowance : Allowance α) : Table α :=
  match c with
  | .economy => { t with economy := allowance }
  | .business => { t with business := allowance }
  | .first => { t with first := allowance }

/-- The budget of a selection that is to stay within the allowance of a class. -/
def budget (t : Table α) (c : TravelClass) : Selection.Budget α :=
  let allowance := t.get c
  ⟨allowance.standardLimit, allowance.maxPieces, allowance.basePrice⟩

theorem get_set (t : Table α) (c d : TravelClass) (allowance : Allowance α) :
    (t.set c allowance).get d = if d = c then allowance else t.get d := by
  cases c <;> cases d <;> rfl

end Table

end Baggage.Fare

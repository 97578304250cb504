import Baggage.Json.Printer
import Baggage.Selection.Selector
import Baggage.Text.Quoted

/-!
# Baggage.Selection.Request

**Reading a request for a selection**: the weights and values of the pieces, and the budget if the
request brings one. Fields with other names are passed over.

The fields of an object are looked at in alphabetical order and only then missed, in the order in
which `Request` and `Budget` list them. Either object may also be an array of its fields in that
order.
-/

namespace Baggage.Selection

/-- What is due at a place of a request. -/
inductive Expected where
  /-- The whole request. -/
  | request
  /-- A budget. -/
  | budget
  /-- A list of numbers. -/
  | list
  /-- A number. -/
  | number
  /-- A number of pieces. -/
  | count
  deriving DecidableEq, Repr

/-- The words for what is due. -/
def Expected.phrase : Expected → String
  | request => "struct SelectInput"
  | budget => "struct SelectionConstraint"
  | list => "a sequence"
  | number => "f64"
  | count => "u32"

/-- Why a value is no request. -/
inductive RequestFault where
  /-- A value of another type stands at a place. -/
  | wrongType (found : Json) (expected : Expected)
  /-- A number of pieces is negative or too large. -/
  | outOfRange (found : Int)
  /-- A field is missing. -/
  | missing (field : String)
  /-- An array ends before all its fields are there. -/
  | tooShort (length : Nat) (expected : Expected)
  /-- An array goes on behind its fields. -/
  | tooLong (length : Nat)

/-- The words for a value of a type that is not due. -/
def describe : Json → String
  | .null => "null"
  | .bool b => "boolean \x60" ++ toString b ++ "\x60"
  | .number (.integer n) => "integer \x60" ++ toString n ++ "\x60"
  | .number (.real x _) => "floating point \x60" ++ Json.numberLayout.write x ++ "\x60"
  | .string s => "string " ++ Text.quoted s
  | .array _ => "sequence"
  | .object _ => "map"

/-- The wording of a request fault. -/
def RequestFault.message : RequestFault → String
  | wrongType found expected =>
    "invalid type: " ++ describe found ++ ", expected " ++ expected.phrase
  | outOfRange found =>
    "invalid value: integer \x60" ++ toString found ++ "\x60, expected " ++ Expected.count.phrase
  | missing field => "missing field \x60" ++ field ++ "\x60"
  | tooShort length expected =>
    "invalid length " ++ toString length ++ ", expected " ++ expected.phrase ++ " with 3 elements"
  | tooLong length =>
    "invalid length " ++ toString length ++ ", expected fewer elements in array"

/-- A request for a selection. -/
structure Request where
  /-- The weight of each piece. -/
  weights : List Float
  /-- The value of each piece. -/
  values : List Float
  /-- The budget, if the request brings one. -/
  budget : Option (Budget Float)

/-! ### Values -/

/-- A number. -/
def readNumber (value : Json) : Except RequestFault Float :=
  match value.float? with
  | some x => .ok x
  | none => .error (.wrongType value .number)

/-- A list of numbers. -/
def readNumbers (value : Json) : Except RequestFault (List Float) :=
  match value.array? with
  | some items => items.mapM readNumber
  | none => .error (.wrongType value .list)

/-- The greatest number of pieces. -/
def greatestCount : Nat := 4294967295

/-- A number of pieces. -/
def readCount : Json → Except RequestFault Nat
  | .number (.integer n) =>
    if 0 ≤ n && n ≤ greatestCount then .ok n.toNat else .error (.outOfRange n)
  | value => .error (.wrongType value .count)

/-- The value of a field that is there. -/
def present {α : Type} (field : String) : Option α → Except RequestFault α
  | some value => .ok value
  | none => .error (.missing field)

/-! ### Budgets -/

/-- A budget by its fields. -/
def budgetOfObject (value : Json) : Except RequestFault (Budget Float) := do
  let basePrice ← (value.get? "basePrice").mapM readNumber
  let maxPieces ← (value.get? "maxPieces").mapM readCount
  let maxWeight ← (value.get? "maxWeight").mapM readNumber
  return { maxWeight := ← present "maxWeight" maxWeight
           maxPieces := ← present "maxPieces" maxPieces
           basePrice := ← present "basePrice" basePrice }

/-- The next item of an array of three, of which `before` were read, and the items after it. -/
def nextItem (expected : Expected) (before : Nat) :
    List Json → Except RequestFault (Json × List Json)
  | item :: rest => .ok (item, rest)
  | [] => .error (.tooShort before expected)

/-- Refuses items behind the third. -/
def endOfItems : List Json → Except RequestFault Unit
  | [] => .ok ()
  | rest => .error (.tooLong (3 + rest.length))

/-- A budget by its place. -/
def budgetOfArray (items : List Json) : Except RequestFault (Budget Float) := do
  let (item, items) ← nextItem .budget 0 items
  let maxWeight ← readNumber item
  let (item, items) ← nextItem .budget 1 items
  let maxPieces ← readCount item
  let (item, items) ← nextItem .budget 2 items
  let basePrice ← readNumber item
  endOfItems items
  return { maxWeight, maxPieces, basePrice }

/-- A budget, or none where the value is `null`. -/
def readBudget : Json → Except RequestFault (Option (Budget Float))
  | .null => .ok none
  | .object fields => (budgetOfObject (.object fields)).map some
  | .array items => (budgetOfArray items).map some
  | value => .error (.wrongType value .budget)

/-! ### Requests -/

/-- A request by its fields. -/
def requestOfObject (value : Json) : Except RequestFault Request := do
  let budget ← (value.get? "constraint").mapM readBudget
  let values ← (value.get? "values").mapM readNumbers
  let weights ← (value.get? "weights").mapM readNumbers
  return { weights := ← present "weights" weights
           values := ← present "values" values
           budget := budget.join }

/-- A request by its place. The budget may be left out. -/
def requestOfArray (items : List Json) : Except RequestFault Request := do
  let (item, items) ← nextItem .request 0 items
  let weights ← readNumbers item
  let (item, items) ← nextItem .request 1 items
  let values ← readNumbers item
  match items with
  | [] => return { weights, values, budget := none }
  | item :: items =>
    let budget ← readBudget item
    endOfItems items
    return { weights, values, budget }

/-- The request that a value stands for. -/
def Request.ofJson : Json → Except RequestFault Request
  | .object fields => requestOfObject (.object fields)
  | .array items => requestOfArray items
  | value => .error (.wrongType value .request)

end Baggage.Selection

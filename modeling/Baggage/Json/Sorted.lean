import Baggage.Json.Value

/-!
# Baggage.Json.Sorted

JSON values with the **fields of every object in the order of their names**.
-/

namespace Baggage.Json

/-- Whether one field may stand before another: names by their characters. -/
def fieldBefore (a b : String × Json) : Bool := !decide (b.1 < a.1)

mutual

/-- A value with all fields in the order of their names. -/
def sorted : Json → Json
  | .array items => .array (sortedItems items)
  | .object fields => .object ((sortedFields fields).mergeSort fieldBefore)
  | value => value

/-- The items of an array, each with its fields in order. -/
def sortedItems : List Json → List Json
  | [] => []
  | item :: rest => sorted item :: sortedItems rest

/-- The fields of an object, each with the fields of its value in order. -/
def sortedFields : List (String × Json) → List (String × Json)
  | [] => []
  | (name, value) :: rest => (name, sorted value) :: sortedFields rest

end

end Baggage.Json

import Baggage.Decimal.Basic

/-!
# Baggage.Json.Value

**JSON values** as they are exchanged with clients. A number is an integer when it is written as
one and fits in 64 bits, signed or unsigned; every other number is a finite double. An object
keeps its fields in the order of the text, and a name that occurs twice stands for its last field.
-/

namespace Baggage

namespace Json

/-- A JSON number. -/
inductive Number where
  /-- A number written without point and exponent, from `-2 ^ 63` to `2 ^ 64 - 1`. -/
  | integer (value : Int)
  /-- Any other number: a double, never infinite or undefined. -/
  | real (value : Float) (finite : value.isFinite = true)

/-- The double nearest to a number. -/
def Number.toFloat : Number → Float
  | integer n => Decimal.toFloat ⟨n < 0, n.natAbs, 0⟩
  | real x _ => x

end Json

/-- A JSON value. -/
inductive Json where
  /-- The word `null`. -/
  | null
  /-- A truth value. -/
  | bool (value : Bool)
  /-- A number. -/
  | number (value : Json.Number)
  /-- A string. -/
  | string (value : String)
  /-- An array. -/
  | array (items : List Json)
  /-- An object. -/
  | object (fields : List (String × Json))

instance : Inhabited Json := ⟨.null⟩

namespace Json

/-- The empty object. -/
def empty : Json := .object []

/-- A natural number as a JSON value. -/
def ofNat (n : Nat) : Json := .number (.integer n)

/-- A double as a JSON value; a double that is not finite becomes `null`. -/
def ofFloat (x : Float) : Json :=
  if h : x.isFinite = true then .number (.real x h) else .null

/-- An array of strings. -/
def ofStrings (items : List String) : Json := .array (items.map .string)

/-- An array of doubles. -/
def ofFloats (items : List Float) : Json := .array (items.map ofFloat)

/-- The value of the last field with a given name. -/
def lastField? (name : String) : List (String × Json) → Option Json
  | [] => none
  | (key, value) :: rest =>
    match lastField? name rest with
    | some later => some later
    | none => if key == name then some value else none

/-- The field of an object with a given name; a value that is no object has no fields. -/
def get? (value : Json) (name : String) : Option Json :=
  match value with
  | .object fields => lastField? name fields
  | _ => none

/-- The field of an object with a given name, unless it is missing or `null`. -/
def present? (value : Json) (name : String) : Option Json :=
  match value.get? name with
  | some .null => none
  | found => found

/-- The items of an array. -/
def array? : Json → Option (List Json)
  | .array items => some items
  | _ => none

/-- The double nearest to a number. -/
def float? : Json → Option Float
  | .number n => some n.toFloat
  | _ => none

/-- The characters of a string. -/
def string? : Json → Option String
  | .string s => some s
  | _ => none

@[simp] theorem lastField?_nil (name : String) : lastField? name [] = none := rfl

@[simp] theorem get?_empty (name : String) : empty.get? name = none := rfl

@[simp] theorem present?_empty (name : String) : empty.present? name = none := rfl

end Json

end Baggage

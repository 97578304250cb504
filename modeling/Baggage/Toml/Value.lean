import Baggage.Decimal.Basic

/-!
# Baggage.Toml.Value

**TOML values**. A number is kept as it is written: an integer of 64 bits with its sign, or a
numeral that is later read into the arithmetic in use. Dates and times are recognised but their
fields are of no use to anybody here.
-/

namespace Baggage

/-- A TOML value. -/
inductive Toml where
  /-- A string. -/
  | string (value : String)
  /-- An integer, from `-2 ^ 63` to `2 ^ 63 - 1`. -/
  | integer (value : Int)
  /-- A floating-point numeral. -/
  | float (value : Numeral)
  /-- A truth value. -/
  | bool (value : Bool)
  /-- A date, a time, or both. -/
  | moment
  /-- An array; also an array of tables. -/
  | array (items : List Toml)
  /-- A table, however it was written. No name occurs twice. -/
  | table (fields : List (String × Toml))

instance : Inhabited Toml := ⟨.table []⟩

namespace Toml

/-- The value of the field with a given name. -/
def field? (name : String) : List (String × Toml) → Option Toml
  | [] => none
  | (key, value) :: rest => if key == name then some value else field? name rest

@[simp] theorem field?_nil (name : String) : field? name [] = none := rfl

end Toml

end Baggage

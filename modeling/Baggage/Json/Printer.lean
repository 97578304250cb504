import Baggage.Decimal.Layout
import Baggage.Json.Value

/-!
# Baggage.Json.Printer

**Writing JSON.** `Json.compact` writes a value on one line without blanks; `Json.pretty` puts
every item and field on a line of its own, indented by two spaces for each level, and keeps empty
arrays and objects closed up. Both write fields in the order in which the object holds them.

A double always shows a point or an exponent, so that it reads back as a double. In strings only
the quote, the backslash and the control characters below the space are escaped.
-/

namespace Baggage.Json

/-- Numbers in JSON: positional from `10 ^ -5` to below `10 ^ 16`, otherwise with a signed
exponent, and a whole number ends in `.0`. -/
def numberLayout : Decimal.Layout := ⟨some (-5), some 15, ".0", "+", .even⟩

/-- The text of a number. -/
def Number.write : Number → String
  | integer n => toString n
  | real x _ => numberLayout.write x

/-- One lower-case hexadecimal digit. -/
def hexDigit (n : Nat) : Char := Nat.digitChar n

/-- A character as it stands inside a string. -/
def escapeChar (c : Char) : List Char :=
  match c with
  | '"' => ['\\', '"']
  | '\\' => ['\\', '\\']
  | '\n' => ['\\', 'n']
  | '\r' => ['\\', 'r']
  | '\t' => ['\\', 't']
  | '\x08' => ['\\', 'b']
  | '\x0c' => ['\\', 'f']
  | c =>
    if c.toNat < 32 then
      ['\\', 'u', '0', '0', hexDigit (c.toNat / 16), hexDigit (c.toNat % 16)]
    else [c]

/-- A string in quotes. -/
def quote (s : String) : String :=
  "\"" ++ String.ofList (s.toList.flatMap escapeChar) ++ "\""

mutual

/-- The text of a value on one line. -/
def compact : Json → String
  | .null => "null"
  | .bool b => if b then "true" else "false"
  | .number n => n.write
  | .string s => quote s
  | .array items => "[" ++ String.intercalate "," (compactItems items) ++ "]"
  | .object fields => "\x7b" ++ String.intercalate "," (compactFields fields) ++ "\x7d"

/-- The texts of a list of values. -/
def compactItems : List Json → List String
  | [] => []
  | item :: rest => compact item :: compactItems rest

/-- The texts of a list of fields. -/
def compactFields : List (String × Json) → List String
  | [] => []
  | (name, value) :: rest => (quote name ++ ":" ++ compact value) :: compactFields rest

end

/-- A line break followed by the indentation of a level. -/
def newline (level : Nat) : String := "\n" ++ String.ofList (List.replicate (2 * level) ' ')

mutual

/-- The text of a value that stands `level` deep, without what precedes it on its line. -/
def prettyAt (level : Nat) : Json → String
  | .array (item :: rest) =>
    "[" ++ newline (level + 1)
      ++ String.intercalate ("," ++ newline (level + 1)) (prettyItems (level + 1) (item :: rest))
      ++ newline level ++ "]"
  | .object (field :: rest) =>
    "\x7b" ++ newline (level + 1)
      ++ String.intercalate ("," ++ newline (level + 1)) (prettyFields (level + 1) (field :: rest))
      ++ newline level ++ "\x7d"
  | .array [] => "[]"
  | .object [] => "\x7b\x7d"
  | .null => "null"
  | .bool b => if b then "true" else "false"
  | .number n => n.write
  | .string s => quote s

/-- The texts of a list of values that stand `level` deep. -/
def prettyItems (level : Nat) : List Json → List String
  | [] => []
  | item :: rest => prettyAt level item :: prettyItems level rest

/-- The texts of a list of fields that stand `level` deep. -/
def prettyFields (level : Nat) : List (String × Json) → List String
  | [] => []
  | (name, value) :: rest =>
    (quote name ++ ": " ++ prettyAt level value) :: prettyFields level rest

end

/-- The text of a value over several lines. -/
def pretty (value : Json) : String := prettyAt 0 value

end Baggage.Json

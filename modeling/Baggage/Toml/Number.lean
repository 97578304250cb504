import Baggage.Decimal.Numeral
import Baggage.Text.Hexadecimal
import Baggage.Toml.Line

/-!
# Baggage.Toml.Number

**Numbers** of TOML: integers in four bases and floating-point numbers. An underscore may stand
between two digits. An integer must fit in 64 bits with its sign.
-/

namespace Baggage.Toml

/-- Reads the digits that follow a first one, with underscores between digits left out. -/
def readMoreDigits (isDigit : Char → Bool) (read : List Char) : (text : List Char) →
    Except ReadError (List Char × List Char)
  | '_' :: c :: rest =>
    if isDigit c then readMoreDigits isDigit (c :: read) rest else .error .badNumber
  | ['_'] => .error .badNumber
  | c :: rest =>
    if isDigit c then readMoreDigits isDigit (c :: read) rest else .ok (read.reverse, c :: rest)
  | [] => .ok (read.reverse, [])

/-- Reads at least one digit. -/
def readDigits (isDigit : Char → Bool) : Reader (List Char)
  | c :: rest => if isDigit c then readMoreDigits isDigit [c] rest else .error .badNumber
  | [] => .error .badNumber

/-- Reads the digits of a decimal integer: a zero, or digits that do not begin with one. -/
def readWhole? : TryReader (List Char)
  | '0' :: rest => .ok (some (['0'], rest))
  | c :: rest =>
    if c.isDigit then do return some (← readMoreDigits Char.isDigit [c] rest) else .ok none
  | [] => .ok none

/-- Reads the point and the digits after it, if there is a point. -/
def readFraction? : TryReader (List Char)
  | '.' :: rest => do return some (← readDigits Char.isDigit rest)
  | _ => .ok none

/-- Reads an exponent, if there is one. -/
def readExponent? : TryReader Int
  | c :: rest =>
    if c == 'e' || c == 'E' then do
      let (negative, rest) := Numeral.splitSign rest
      let (digits, rest) ← readDigits Char.isDigit rest
      let size : Int := Decimal.digitsValue digits
      return some (if negative then -size else size, rest)
    else .ok none
  | [] => .ok none

/-- The numeral of a floating-point number; one above every double is refused. -/
def floatOf (negative : Bool) (whole fraction : List Char) (exponent : Int) :
    Except ReadError Toml :=
  let d := Decimal.ofDigits negative whole fraction exponent
  if !negative && !d.toFloat.isFinite then .error .numberOutOfRange
  else .ok (.float (.decimal d))

/-- The integer with this sign and size. -/
def integerOf (negative : Bool) (size : Nat) : Except ReadError Toml :=
  if negative then
    if size ≤ 9223372036854775808 then .ok (.integer (-size)) else .error .numberOutOfRange
  else if size ≤ 9223372036854775807 then .ok (.integer size)
  else .error .numberOutOfRange

/-- Reads a decimal number, integer or not. -/
def readDecimal : Reader Toml := fun text => do
  let (negative, unsigned) := Numeral.splitSign text
  match ← readWhole? unsigned with
  | none =>
    match unsigned with
    | 'i' :: 'n' :: 'f' :: rest => return (.float (.infinity negative), rest)
    | 'n' :: 'a' :: 'n' :: rest => return (.float .undefined, rest)
    | _ => unexpectedAt unsigned
  | some (whole, rest) =>
    match ← readFraction? rest with
    | some (fraction, rest) =>
      match ← readExponent? rest with
      | some (exponent, rest) => return (← floatOf negative whole fraction exponent, rest)
      | none => return (← floatOf negative whole fraction 0, rest)
    | none =>
      match ← readExponent? rest with
      | some (exponent, rest) => return (← floatOf negative whole [] exponent, rest)
      | none => return (← integerOf negative (Decimal.digitsValue whole), rest)

/-- Reads the digits of an integer in another base. -/
def readBased (base : Nat) (isDigit : Char → Bool) : Reader Toml := fun text => do
  let (digits, rest) ← readDigits isDigit text
  let size := digits.foldl (fun n c => n * base + (Text.hexValue? c).getD 0) 0
  return (← integerOf false size, rest)

/-- Reads a number. -/
def readNumber : Reader Toml
  | '0' :: 'x' :: rest => readBased 16 (fun c => (Text.hexValue? c).isSome) rest
  | '0' :: 'o' :: rest => readBased 8 (fun c => '0' ≤ c && c ≤ '7') rest
  | '0' :: 'b' :: rest => readBased 2 (fun c => c == '0' || c == '1') rest
  | text => readDecimal text

end Baggage.Toml

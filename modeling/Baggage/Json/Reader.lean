import Baggage.Json.Value
import Baggage.Text.Hexadecimal

/-!
# Baggage.Json.Reader

**Reading JSON**, strictly: blanks are the space, the tab, the line feed and the carriage return;
numbers have no leading zeros and no plus sign; nothing may follow the last item of an array or
the value itself; a string holds no raw control characters, and its escapes name whole characters,
so a surrogate must be one of a pair.

A number that is not an integer of 64 bits is read as a double, though not always as the nearest
one: its first digits, as many as fit in 64 bits, are rounded to a double, and this is multiplied by
a power of ten or divided by one, which rounds again. A product that exceeds all doubles is refused,
and a quotient that is too small becomes zero. So `1.7976931348623158e308` is refused, although a
double is near it.

Reading takes the greatest nesting as a parameter and descends on it; a list of items or fields
descends on a bound for the length of the text. Both are natural numbers, so every reader is
total, and the second bound is never reached.
-/

namespace Baggage.Json

/-- Why a text is no JSON value. -/
inductive ReadError where
  /-- The text ends inside a value. -/
  | endOfText
  /-- A character stands where none of its kind may. -/
  | unexpected (found : Char)
  /-- A backslash is followed by no known escape, or by half of a surrogate pair. -/
  | badEscape
  /-- A control character stands unescaped in a string. -/
  | controlCharacter
  /-- The digits of a number are missing, or begin with a superfluous zero. -/
  | badNumber
  /-- A number exceeds every double. -/
  | numberTooLarge
  /-- Arrays and objects are nested too deeply. -/
  | tooDeep
  /-- The bytes are not valid UTF-8. -/
  | notUtf8
  deriving DecidableEq, Repr

/-- The wording of a read error. -/
def ReadError.message : ReadError → String
  | endOfText => "unexpected end of text"
  | unexpected c => "unexpected character " ++ c.quote
  | badEscape => "invalid escape"
  | controlCharacter => "control character in a string"
  | badNumber => "invalid number"
  | numberTooLarge => "number out of range"
  | tooDeep => "nested too deeply"
  | notUtf8 => "invalid UTF-8"

/-- A reader takes a value off the front of a text and gives back the rest. -/
abbrev Reader (α : Type) := List Char → Except ReadError (α × List Char)

/-! ### Characters and words -/

/-- The characters that may stand between tokens. -/
def isBlank (c : Char) : Bool := c == ' ' || c == '\t' || c == '\n' || c == '\r'

/-- A text without the blanks in front. -/
def skipBlanks (text : List Char) : List Char := text.dropWhile isBlank

/-- The error of finding `text` where something else was due. -/
def unexpectedAt {α : Type} : List Char → Except ReadError α
  | [] => .error .endOfText
  | c :: _ => .error (.unexpected c)

/-- Reads a fixed word and gives the value that it stands for. -/
def readWord (word : List Char) (value : Json) : Reader Json := fun text =>
  if word.isPrefixOf text then .ok (value, text.drop word.length)
  else unexpectedAt (text.drop 1)

/-- The value of four hexadecimal digits. -/
def hexValue4? (a b c d : Char) : Option Nat := do
  let a ← Text.hexValue? a
  let b ← Text.hexValue? b
  let c ← Text.hexValue? c
  let d ← Text.hexValue? d
  return ((a * 16 + b) * 16 + c) * 16 + d

/-! ### Strings -/

/-- The character that a letter after a backslash stands for. -/
def escaped? : Char → Option Char
  | '"' => some '"'
  | '\\' => some '\\'
  | '/' => some '/'
  | 'b' => some '\x08'
  | 'f' => some '\x0c'
  | 'n' => some '\n'
  | 'r' => some '\r'
  | 't' => some '\t'
  | _ => none

/-- The first half of a surrogate pair. -/
def isHighSurrogate (unit : Nat) : Bool := 0xD800 ≤ unit && unit ≤ 0xDBFF

/-- The second half of a surrogate pair. -/
def isLowSurrogate (unit : Nat) : Bool := 0xDC00 ≤ unit && unit ≤ 0xDFFF

/-- The character that a surrogate pair stands for. -/
def pairedChar (high low : Nat) : Char :=
  Char.ofNat (0x10000 + (high - 0xD800) * 0x400 + (low - 0xDC00))

/-- Reads the rest of a string after its opening quote; `read` holds the characters so far, the
last one in front. -/
def readString (read : List Char) : Reader String
  | [] => .error .endOfText
  | '"' :: rest => .ok (String.ofList read.reverse, rest)
  | '\\' :: 'u' :: a :: b :: c :: d :: rest =>
    match hexValue4? a b c d with
    | none => .error .badEscape
    | some unit =>
      if isLowSurrogate unit then .error .badEscape
      else if isHighSurrogate unit then
        match rest with
        | '\\' :: 'u' :: e :: f :: g :: h :: rest =>
          match hexValue4? e f g h with
          | none => .error .badEscape
          | some low =>
            if isLowSurrogate low then readString (pairedChar unit low :: read) rest
            else .error .badEscape
        | _ => .error .badEscape
      else readString (Char.ofNat unit :: read) rest
  | '\\' :: c :: rest =>
    match escaped? c with
    | none => .error .badEscape
    | some c => readString (c :: read) rest
  | c :: rest =>
    if c.toNat < 32 then .error .controlCharacter
    else if c == '\\' then .error .endOfText
    else readString (c :: read) rest

/-! ### Numbers -/

/-- Reads at least one decimal digit. -/
def readDigits : Reader (List Char) := fun text =>
  match text.takeWhile Char.isDigit with
  | [] => .error .badNumber
  | digits => .ok (digits, text.dropWhile Char.isDigit)

/-- Reads the digits before the point: a lone zero, or digits that do not begin with one. -/
def readWhole : Reader (List Char) := fun text => do
  let (digits, rest) ← readDigits text
  match digits with
  | '0' :: _ :: _ => .error .badNumber
  | _ => return (digits, rest)

/-- Reads the point and the digits after it, if there is a point. -/
def readFraction : Reader (List Char)
  | '.' :: rest => readDigits rest
  | text => .ok ([], text)

/-- Reads an exponent, if there is one. -/
def readExponent : Reader (Option Int)
  | c :: rest =>
    if c == 'e' || c == 'E' then
      let (negative, rest) := match rest with
        | '-' :: rest => (true, rest)
        | '+' :: rest => (false, rest)
        | rest => (false, rest)
      match readDigits rest with
      | .error e => .error e
      | .ok (digits, rest) =>
        let size : Int := Decimal.digitsValue digits
        .ok (some (if negative then -size else size), rest)
    else .ok (none, c :: rest)
  | [] => .ok (none, [])

/-- Whether an integer has a form of its own: it fits in 64 bits and is not a negative zero. -/
def isWord (negative : Bool) (size : Nat) : Bool :=
  if negative then 0 < size && size ≤ 9223372036854775808 else size ≤ 18446744073709551615

/-- Takes up digits, one after the other, as long as the number that they make fits in 64 bits;
gives that number and the digits that are left over. -/
def takeDigits (significand : Nat) : List Char → Nat × List Char
  | [] => (significand, [])
  | c :: digits =>
    let longer := significand * 10 + (c.toNat - '0'.toNat)
    if longer ≤ 18446744073709551615 then takeDigits longer digits
    else (significand, c :: digits)

/-- The exponent of the greatest power of ten that is a double. -/
def greatestPower : Nat := 308

/-- A power of ten as a double. -/
def powerOfTen (exponent : Nat) : Float := Decimal.toFloat ⟨false, 1, exponent⟩

/-- A double times a power of ten. A power that is a double itself takes one product or quotient. A
greater one exceeds all doubles, unless it scales a zero; a smaller one is split, and as soon as
nothing is left the rest of it does not count. -/
def scale (x : Float) (exponent : Int) : Except ReadError Float :=
  if exponent.natAbs ≤ greatestPower then
    if 0 ≤ exponent then
      let product := x * powerOfTen exponent.natAbs
      if product.isInf then .error .numberTooLarge else .ok product
    else .ok (x / powerOfTen exponent.natAbs)
  else if x == 0.0 then .ok x
  else if 0 ≤ exponent then .error .numberTooLarge
  else scale (x / powerOfTen greatestPower) (exponent + greatestPower)
termination_by (-exponent).toNat
decreasing_by simp only [greatestPower] at *; omega

/-- The double that is written with these parts. The digits that no longer fit in the significand
count as zeros before the point, and not at all behind it. -/
def doubleOf (negative : Bool) (whole fraction : List Char) (exponent : Int) :
    Except ReadError Float := do
  let (significand, zeros) := takeDigits 0 whole
  let (significand, ignored) := takeDigits significand fraction
  let places := fraction.length - ignored.length
  let size ← scale (Decimal.toFloat ⟨false, significand, 0⟩) (zeros.length - places + exponent)
  return if negative then -size else size

/-- The number that is written with these parts. -/
def numberOf (negative : Bool) (whole fraction : List Char) (exponent : Option Int) :
    Except ReadError Number := do
  let size := Decimal.digitsValue whole
  if fraction.isEmpty && exponent.isNone && isWord negative size then
    return .integer (if negative then -size else size)
  else
    let x ← doubleOf negative whole fraction (exponent.getD 0)
    if h : x.isFinite = true then return .real x h else throw .numberTooLarge

/-- Reads a number. -/
def readNumber : Reader Number := fun text => do
  let (negative, text) := match text with
    | '-' :: rest => (true, rest)
    | text => (false, text)
  let (whole, text) ← readWhole text
  let (fraction, text) ← readFraction text
  let (exponent, text) ← readExponent text
  return (← numberOf negative whole fraction exponent, text)

/-! ### Arrays, objects and values -/

/-- Reads the items of an array that has at least one, up to and including its bracket. -/
def readItems (item : Reader Json) (read : List Json) : (bound : Nat) → Reader (List Json)
  | 0, _ => .error .endOfText
  | bound + 1, text => do
    let (value, rest) ← item text
    match skipBlanks rest with
    | ',' :: rest => readItems item (value :: read) bound rest
    | ']' :: rest => return ((value :: read).reverse, rest)
    | other => unexpectedAt other

/-- Reads a name, its colon and its value. -/
def readField (item : Reader Json) : Reader (String × Json) := fun text =>
  match skipBlanks text with
  | '"' :: rest => do
    let (name, rest) ← readString [] rest
    match skipBlanks rest with
    | ':' :: rest =>
      let (value, rest) ← item rest
      return ((name, value), rest)
    | other => unexpectedAt other
  | other => unexpectedAt other

/-- Reads the fields of an object that has at least one, up to and including its brace. -/
def readFields (item : Reader Json) (read : List (String × Json)) :
    (bound : Nat) → Reader (List (String × Json))
  | 0, _ => .error .endOfText
  | bound + 1, text => do
    let (field, rest) ← readField item text
    match skipBlanks rest with
    | ',' :: rest => readFields item (field :: read) bound rest
    | '\x7d' :: rest => return ((field :: read).reverse, rest)
    | other => unexpectedAt other

/-- Reads a value whose arrays and objects are read by the given readers of what follows their
opening bracket or brace. -/
def readValueWith (array object : Reader Json) : Reader Json := fun text =>
  match skipBlanks text with
  | '[' :: rest => array rest
  | '\x7b' :: rest => object rest
  | '"' :: rest => do
    let (s, rest) ← readString [] rest
    return (.string s, rest)
  | 't' :: rest => readWord ['t', 'r', 'u', 'e'] (.bool true) ('t' :: rest)
  | 'f' :: rest => readWord ['f', 'a', 'l', 's', 'e'] (.bool false) ('f' :: rest)
  | 'n' :: rest => readWord ['n', 'u', 'l', 'l'] .null ('n' :: rest)
  | c :: rest =>
    if c == '-' || c.isDigit then do
      let (n, rest) ← readNumber (c :: rest)
      return (.number n, rest)
    else .error (.unexpected c)
  | [] => .error .endOfText

/-- Reads what follows the opening bracket of an array. -/
def readArray (item : Reader Json) (bound : Nat) : Reader Json := fun text =>
  match skipBlanks text with
  | ']' :: rest => .ok (.array [], rest)
  | text => do
    let (items, rest) ← readItems item [] bound text
    return (.array items, rest)

/-- Reads what follows the opening brace of an object. -/
def readObject (item : Reader Json) (bound : Nat) : Reader Json := fun text =>
  match skipBlanks text with
  | '\x7d' :: rest => .ok (.object [], rest)
  | text => do
    let (fields, rest) ← readFields item [] bound text
    return (.object fields, rest)

/-- Reads a value in which arrays and objects are nested at most `depth` deep. -/
def readValue (bound : Nat) : (depth : Nat) → Reader Json
  | 0 => readValueWith (fun _ => .error .tooDeep) (fun _ => .error .tooDeep)
  | depth + 1 =>
    readValueWith (readArray (readValue bound depth) bound)
      (readObject (readValue bound depth) bound)

/-- The greatest nesting of arrays and objects in a text from a client. -/
def depthLimit : Nat := 127

/-- The value of a whole text, nested at most `depth` deep. -/
def parseWithin (depth : Nat) (text : String) : Except ReadError Json := do
  let text := text.toList
  let (value, rest) ← readValue text.length depth text
  match skipBlanks rest with
  | [] => return value
  | c :: _ => .error (.unexpected c)

/-- The value of a whole text. -/
def parse (text : String) : Except ReadError Json := parseWithin depthLimit text

/-- The value of a text that is given by its bytes. -/
def parseBytes (bytes : ByteArray) : Except ReadError Json :=
  match String.fromUTF8? bytes with
  | some text => parse text
  | none => .error .notUtf8

end Baggage.Json

import Baggage.Toml.Line

/-!
# Baggage.Toml.Moment

**Dates and times** of TOML. They are checked, down to the number of days in the month, and not
kept.
-/

namespace Baggage.Toml

/-- The number that so many digits in front of a text make, if they are there. -/
def fixedNumber? (digits : Nat) (text : List Char) : Option (Nat × List Char) :=
  let front := text.take digits
  if front.length == digits && front.all Char.isDigit then
    some (Nat.ofDigitChars 10 front 0, text.drop digits)
  else none

/-- Reads a number of two digits within limits. -/
def readTwoDigits (least greatest : Nat) : Reader Nat := fun text =>
  match fixedNumber? 2 text with
  | some (n, rest) => if least ≤ n && n ≤ greatest then .ok (n, rest) else .error .badMoment
  | none => .error .badMoment

/-- Reads one fixed character. -/
def readChar (c : Char) : Reader Unit
  | found :: rest => if found == c then .ok ((), rest) else .error (.unexpected found)
  | [] => .error .endOfText

/-- The number of days in a month. -/
def daysIn (year month : Nat) : Nat :=
  let leap := year % 4 == 0 && (year % 100 != 0 || year % 400 == 0)
  if month == 2 then if leap then 29 else 28
  else if month == 4 || month == 6 || month == 9 || month == 11 then 30
  else 31

/-- Reads a date. -/
def readDate? : TryReader Unit := fun text =>
  match fixedNumber? 4 text with
  | some (year, '-' :: rest) => do
    let (month, rest) ← readTwoDigits 1 12 rest
    let (_, rest) ← readChar '-' rest
    let (_, rest) ← readTwoDigits 1 (daysIn year month) rest
    return some ((), rest)
  | _ => .ok none

/-- The text after a fraction of a second, if there is one in front. -/
def skipSecondFraction : List Char → List Char
  | '.' :: c :: rest => if c.isDigit then rest.dropWhile Char.isDigit else '.' :: c :: rest
  | text => text

/-- Reads a time of day. -/
def readTime? : TryReader Unit := fun text =>
  match fixedNumber? 2 text with
  | some (hour, ':' :: rest) =>
    if 23 < hour then .ok none
    else do
      let (_, rest) ← readTwoDigits 0 59 rest
      let (_, rest) ← readChar ':' rest
      let (_, rest) ← readTwoDigits 0 60 rest
      return some ((), skipSecondFraction rest)
  | _ => .ok none

/-- Reads an offset from universal time, if there is one. -/
def readOffset : Reader Unit
  | c :: rest =>
    if c == 'Z' || c == 'z' then .ok ((), rest)
    else if c == '+' || c == '-' then do
      let (_, rest) ← readTwoDigits 0 23 rest
      let (_, rest) ← readChar ':' rest
      let (_, rest) ← readTwoDigits 0 59 rest
      return ((), rest)
    else .ok ((), c :: rest)
  | [] => .ok ((), [])

/-- Reads the time that follows a date, if there is one. -/
def readTimeOfDate (text : List Char) : Except ReadError (List Char) :=
  match text with
  | c :: rest =>
    if c == 'T' || c == 't' || c == ' ' then do
      match ← readTime? rest with
      | some (_, rest) =>
        let (_, rest) ← readOffset rest
        return rest
      | none => return text
    else .ok text
  | [] => .ok text

/-- Reads a date, a time, or a date with a time. -/
def readMoment? : TryReader Toml := fun text => do
  match ← readDate? text with
  | some (_, rest) => return some (.moment, ← readTimeOfDate rest)
  | none =>
    match ← readTime? text with
    | some (_, rest) => return some (.moment, rest)
    | none => return none

end Baggage.Toml

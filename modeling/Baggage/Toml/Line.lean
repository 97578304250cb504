import Baggage.Toml.Value

/-!
# Baggage.Toml.Line

The **lines** of a TOML text: blanks, comments and line breaks, and what all readers of its parts
have in common. A reader takes a value off the front of a text and gives back the rest.

Where two forms begin alike (an integer and a date, say), a reader with a `?` gives nothing as long
as the text may still be of the other form, and an error once it cannot.
-/

namespace Baggage.Toml

/-- Why a text is no TOML document. -/
inductive ReadError where
  /-- The text ends inside a line or value. -/
  | endOfText
  /-- A character stands where none of its kind may. -/
  | unexpected (found : Char)
  /-- A backslash is followed by no known escape. -/
  | badEscape
  /-- Digits are missing, or an underscore is not between two. -/
  | badNumber
  /-- A number does not fit. -/
  | numberOutOfRange
  /-- There is no such day or time. -/
  | badMoment
  /-- Values or keys are nested too deeply. -/
  | tooDeep
  /-- A key or table is defined twice, or by means that exclude each other. -/
  | redefined (name : String)
  deriving DecidableEq, Repr

/-- The wording of a read error. -/
def ReadError.message : ReadError → String
  | endOfText => "unexpected end of text"
  | unexpected c => "unexpected character " ++ c.quote
  | badEscape => "invalid escape"
  | badNumber => "invalid number"
  | numberOutOfRange => "number out of range"
  | badMoment => "invalid date or time"
  | tooDeep => "nested too deeply"
  | redefined name => "duplicate key " ++ name.quote

/-- A reader takes a value off the front of a text and gives back the rest. -/
abbrev Reader (α : Type) := List Char → Except ReadError (α × List Char)

/-- A reader that may find that the text is of another form. -/
abbrev TryReader (α : Type) := List Char → Except ReadError (Option (α × List Char))

/-! ### Characters and blanks -/

/-- The error of finding `text` where something else was due. -/
def unexpectedAt {α : Type} : List Char → Except ReadError α
  | [] => .error .endOfText
  | c :: _ => .error (.unexpected c)

/-- The blanks within a line. -/
def isBlank (c : Char) : Bool := c == ' ' || c == '\t'

/-- A text without the blanks in front. -/
def skipBlanks (text : List Char) : List Char := text.dropWhile isBlank

/-- What may stand in a line: no control character but the tab. -/
def isPrintable (c : Char) : Bool := c == '\t' || (32 ≤ c.toNat && c.toNat != 127)

/-- The text after a line break, if there is one in front. -/
def lineBreak? : List Char → Option (List Char)
  | '\n' :: rest => some rest
  | '\r' :: '\n' :: rest => some rest
  | _ => none

/-- The text after a comment, if there is one in front. -/
def skipComment (text : List Char) : List Char :=
  match text with
  | '#' :: rest => rest.dropWhile isPrintable
  | _ => text

/-- Reads the end of a line: blanks, a comment, a line break or the end of the text. -/
def readLineEnd : Reader Unit := fun text =>
  match skipComment (skipBlanks text) with
  | [] => .ok ((), [])
  | rest =>
    match lineBreak? rest with
    | some rest => .ok ((), rest)
    | none => unexpectedAt rest

/-- A text without the blanks, comments and line breaks in front. -/
def skipLines : (bound : Nat) → List Char → List Char
  | 0, text => text
  | bound + 1, text =>
    let rest := skipComment (skipBlanks text)
    match lineBreak? rest with
    | some rest => skipLines bound rest
    | none => rest

end Baggage.Toml

import Baggage.Text.Hexadecimal
import Baggage.Toml.Line

/-!
# Baggage.Toml.Key

**Strings and keys** of TOML. A string stands on one line, between single quotes, or over several,
between three; between double quotes a backslash begins an escape. A key has parts with points
between them, each a bare word or a string on one line.

Strings and keys descend on a bound for the length of the text, which is never reached.
-/

namespace Baggage.Toml

/-! ### Strings -/

/-- The value of a list of hexadecimal digits. -/
def hexNumber? (digits : List Char) : Option Nat :=
  digits.foldlM (fun n c => (Text.hexValue? c).map fun d => n * 16 + d) 0

/-- The character with a code point given by so many hexadecimal digits. -/
def readCodePoint (digits : Nat) : Reader Char := fun text =>
  let front := text.take digits
  match hexNumber? front with
  | none => .error .badEscape
  | some n =>
    if front.length == digits && (n < 0xD800 || (0xDFFF < n && n < 0x110000)) then
      .ok (Char.ofNat n, text.drop digits)
    else .error .badEscape

/-- Reads what follows a backslash. -/
def readEscape : Reader Char
  | 'b' :: rest => .ok ('\x08', rest)
  | 't' :: rest => .ok ('\t', rest)
  | 'n' :: rest => .ok ('\n', rest)
  | 'f' :: rest => .ok ('\x0c', rest)
  | 'r' :: rest => .ok ('\r', rest)
  | '"' :: rest => .ok ('"', rest)
  | '\\' :: rest => .ok ('\\', rest)
  | 'u' :: rest => readCodePoint 4 rest
  | 'U' :: rest => readCodePoint 8 rest
  | _ => .error .badEscape

/-- A text without the blanks and line breaks in front. -/
def skipBreaks : (bound : Nat) → List Char → List Char
  | 0, text => text
  | bound + 1, text =>
    match lineBreak? (skipBlanks text) with
    | some rest => skipBreaks bound rest
    | none => skipBlanks text

/-- The text after the blanks and line breaks that a backslash at the end of a line swallows, if
that is what follows the backslash. -/
def foldedLine? (bound : Nat) (text : List Char) : Option (List Char) :=
  (lineBreak? (skipBlanks text)).map (skipBreaks bound)

/-- Reads the rest of a string on one line, up to its quote; only if `escapes`, a backslash has a
meaning. -/
def readLineString (quote : Char) (escapes : Bool) (read : List Char) :
    (bound : Nat) → Reader String
  | 0, _ => .error .endOfText
  | _, [] => .error .endOfText
  | bound + 1, c :: rest =>
    if c == quote then .ok (String.ofList read.reverse, rest)
    else if escapes && c == '\\' then do
      let (c, rest) ← readEscape rest
      readLineString quote escapes (c :: read) bound rest
    else if isPrintable c then readLineString quote escapes (c :: read) bound rest
    else .error (.unexpected c)

/-- How many quotes stand in front of a text, counted up to five. -/
def quotesInFront (quote : Char) (text : List Char) : Nat :=
  ((text.take 5).takeWhile fun c => c == quote).length

/-- Reads the rest of a string over several lines, up to its three quotes. -/
def readLongString (quote : Char) (escapes : Bool) (read : List Char) :
    (bound : Nat) → Reader String
  | 0, _ => .error .endOfText
  | _, [] => .error .endOfText
  | bound + 1, c :: rest =>
    if c == quote then
      let quotes := quotesInFront quote (c :: rest)
      if 3 ≤ quotes then
        .ok (String.ofList (List.replicate (quotes - 3) quote ++ read).reverse,
          rest.drop (quotes - 1))
      else readLongString quote escapes (c :: read) bound rest
    else if escapes && c == '\\' then
      match foldedLine? bound rest with
      | some rest => readLongString quote escapes read bound rest
      | none => do
        let (c, rest) ← readEscape rest
        readLongString quote escapes (c :: read) bound rest
    else
      match lineBreak? (c :: rest) with
      | some rest => readLongString quote escapes ('\n' :: read) bound rest
      | none =>
        if isPrintable c then readLongString quote escapes (c :: read) bound rest
        else .error (.unexpected c)

/-- Reads a string after its first quote. A line break right after three quotes is dropped. -/
def readString (quote : Char) (escapes : Bool) (bound : Nat) : Reader String := fun text =>
  match text with
  | a :: b :: rest =>
    if a == quote && b == quote then
      readLongString quote escapes [] bound ((lineBreak? rest).getD rest)
    else readLineString quote escapes [] bound text
  | _ => readLineString quote escapes [] bound text

/-! ### Keys -/

/-- What a key may consist of without quotes. -/
def isBareKeyChar (c : Char) : Bool :=
  ('a' ≤ c && c ≤ 'z') || ('A' ≤ c && c ≤ 'Z') || c.isDigit || c == '-' || c == '_'

/-- Reads one part of a key. -/
def readKeyPart (bound : Nat) : Reader String
  | '"' :: rest => readLineString '"' true [] bound rest
  | '\'' :: rest => readLineString '\'' false [] bound rest
  | text =>
    match text.takeWhile isBareKeyChar with
    | [] => unexpectedAt text
    | part => .ok (String.ofList part, text.dropWhile isBareKeyChar)

/-- Reads the parts of a dotted key, the last one in front. -/
def readKeyParts (whole : Nat) (read : List String) : (bound : Nat) → Reader (List String)
  | 0, _ => .error .endOfText
  | bound + 1, text => do
    let (part, rest) ← readKeyPart whole (skipBlanks text)
    match skipBlanks rest with
    | '.' :: rest => readKeyParts whole (part :: read) bound rest
    | rest => return (part :: read, rest)

/-- Parts of a key, and arrays and inline tables within each other, may number at most this. -/
def depthLimit : Nat := 79

/-- Reads a key: the parts before the last one, and the last one. -/
def readKey (bound : Nat) : Reader (List String × String) := fun text => do
  let (parts, rest) ← readKeyParts bound [] bound text
  match parts with
  | [] => .error .endOfText
  | name :: parents =>
    if parents.length < depthLimit then return ((parents.reverse, name), rest)
    else .error .tooDeep

end Baggage.Toml

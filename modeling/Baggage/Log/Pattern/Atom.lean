import Baggage.Log.Pattern.Scope
import Baggage.Text.Hexadecimal

/-!
# Baggage.Log.Pattern.Atom

The **smallest parts** of a pattern: characters, classes and places that are written with at most
one sign and a backslash in front of it. A pattern stands between braces and has no closing brace in
it, so the forms that end with one are never complete.
-/

namespace Baggage.Log.Pattern

/-- A smallest part. -/
inductive Atom where
  /-- A character, which may be written as a byte. -/
  | character (c : Char) (asByte : Bool)
  /-- Any character but the end of a line. -/
  | any
  /-- The class of digits, of blanks or of word characters, or all others. -/
  | tabled (negated : Bool)
  /-- A place: an end of the text or of a line, or a boundary of a word. -/
  | place (ofWord : Bool)
  deriving DecidableEq, Repr

/-- The signs that have a meaning of their own. -/
def signs : List Char :=
  ['\\', '.', '+', '*', '?', '(', ')', '|', '[', ']', '\x7b', '\x7d', '^', '$', '#', '&', '-', '~']

/-- Whether a character stands for itself behind a backslash. -/
def isEscapable (c : Char) : Bool :=
  signs.contains c || (c.toNat < 128 && !c.isAlphanum && c != '<' && c != '>')

/-- The number that the given count of hexadecimal digits make. -/
def readHexadecimal (s : Scope) : (count value : Nat) → List Char → Option (Nat × List Char)
  | 0, value, text => some (value, text)
  | _ + 1, _, [] => none
  | count + 1, value, c :: rest =>
    (Text.hexValue? c).bind fun digit => readHexadecimal s count (value * 16 + digit) (s.skip rest)

/-- The character that is given by its number, in so many digits. -/
def readNumbered (s : Scope) (digits : Nat) (text : List Char) : Option (Atom × List Char) :=
  match readHexadecimal s digits 0 (s.skip text) with
  | none => none
  | some (value, rest) =>
    if value.isValidChar then some (.character (Char.ofNat value) (digits == 2), rest) else none

/-- Reads what follows a backslash. Classes by a property of their characters are never known. -/
def readEscape (s : Scope) : List Char → Option (Atom × List Char)
  | [] => none
  | 'x' :: rest => readNumbered s 2 rest
  | 'u' :: rest => readNumbered s 4 rest
  | 'U' :: rest => readNumbered s 8 rest
  | c :: rest =>
    if ['d', 's', 'w'].contains c then some (.tabled false, rest)
    else if ['D', 'S', 'W'].contains c then some (.tabled true, rest)
    else if ['A', 'z'].contains c then some (.place false, rest)
    else if ['b', 'B', '<', '>'].contains c then some (.place true, rest)
    else if ['a', 'f', 't', 'n', 'r', 'v'].contains c || isEscapable c then
      some (.character c false, rest)
    else none

/-- Whether a part may stand at a place of a pattern, outside of classes. -/
def Atom.isAllowed (s : Scope) : Atom → Bool
  | character c asByte => s.allowsCharacter c asByte
  | any => s.allowsAny
  | tabled negated => s.allowsTabled negated
  | place _ => true

end Baggage.Log.Pattern

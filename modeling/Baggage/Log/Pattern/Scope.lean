import Baggage.Text.Blank

/-!
# Baggage.Log.Pattern.Scope

The **flags** that are in force at a place of a pattern, as far as they decide what may stand there.
Patterns are matched without tables of the properties of characters. So characters of Unicode are
not folded into both cases, and the classes of digits, blanks and word characters exist for bytes
alone; bytes, on the other hand, must not reach beyond ASCII, because texts are not cut inside a
character.
-/

namespace Baggage.Log.Pattern

/-- The flags in force at a place of a pattern. -/
structure Scope where
  /-- Characters are those of Unicode, otherwise they are bytes. -/
  unicode : Bool
  /-- Letters stand for both cases. -/
  bothCases : Bool
  /-- Blanks do not count, and a number sign begins a comment. -/
  spaced : Bool
  deriving DecidableEq, Repr

namespace Scope

/-- The flags at the beginning of a pattern. -/
def standard : Scope := ⟨true, false, false⟩

/-! ### What may stand at a place -/

/-- Whether a character may stand for itself. A byte is written with two digits. -/
def allowsCharacter (s : Scope) (c : Char) (asByte : Bool) : Bool :=
  if s.unicode then !s.bothCases else !asByte || c.toNat < 128

/-- Whether a character may be listed in a class. -/
def allowsListed (s : Scope) (c : Char) : Bool :=
  if s.unicode then !s.bothCases else c.toNat < 128

/-- Whether a class with a name in brackets, such as `alpha`, may be listed in a class. -/
def allowsNamed (s : Scope) (negated : Bool) : Bool :=
  if s.unicode then !s.bothCases else !negated

/-- Whether a class of digits, blanks or word characters may stand. -/
def allowsTabled (s : Scope) (negated : Bool) : Bool := !s.unicode && !negated

/-- Whether a class may be negated. -/
def allowsNegation (s : Scope) : Bool := s.unicode

/-- Whether any character at all may be asked for. -/
def allowsAny (s : Scope) : Bool := s.unicode

/-! ### Blanks and comments -/

/-- A text without the blanks and comments in front of it; it may begin inside a comment. -/
def skipBlanks (inComment : Bool) : List Char → List Char
  | [] => []
  | c :: rest =>
    if inComment then skipBlanks (c != '\n') rest
    else if Text.isBlank c then skipBlanks false rest
    else if c == '#' then skipBlanks true rest
    else c :: rest

/-- A text without what does not count in front of it. -/
def skip (s : Scope) (text : List Char) : List Char :=
  if s.spaced then skipBlanks false text else text

/-- The character that a text is taken to begin with by one who looks ahead. Blanks do not count,
but of a comment only its sign does not. -/
def peek? (s : Scope) (text : List Char) : Option Char :=
  if s.spaced then
    match text.dropWhile Text.isBlank with
    | '#' :: rest => (rest.dropWhile Text.isBlank).head?
    | rest => rest.head?
  else text.head?

/-! ### Changing the flags -/

/-- The letters of the flags, and the sign in front of those that are turned off. -/
def flagLetters : List Char := ['i', 'm', 's', 'U', 'u', 'R', 'x', '-']

/-- Whether a text changes flags: all are known, none comes twice, and the sign is not the last. -/
def areFlags (flags : List Char) : Bool :=
  flags.all flagLetters.contains && flags.eraseDups.length == flags.length
    && flags.getLast? != some '-'

/-- A flag after a change. -/
def changed (flags : List Char) (letter : Char) (before : Bool) : Bool :=
  if (flags.takeWhile fun c => c != '-').contains letter then true
  else before && !flags.contains letter

/-- The flags after a change. -/
def change (s : Scope) (flags : List Char) : Scope :=
  ⟨changed flags 'u' s.unicode, changed flags 'i' s.bothCases, changed flags 'x' s.spaced⟩

end Scope

end Baggage.Log.Pattern

import Baggage.Log.Pattern.Atom

/-!
# Baggage.Log.Pattern.CharClass

**Classes in brackets**: characters, ranges, named classes and further classes one after the other,
and sets of them joined by an operator. Of a class that is well formed the height is kept, that is
how deeply its parts are nested: a class counts for one, a set of several parts for one, and an
operator for one.
-/

namespace Baggage.Log.Pattern

/-- The height of some parts together, where several count for one more. -/
def heightOfParts : List Nat → Nat
  | [] => 0
  | [height] => height
  | heights => heights.foldl Nat.max 0 + 1

/-- A class that is being read. -/
structure OpenClass where
  /-- The heights of the parts behind the last operator. -/
  parts : List Nat
  /-- The height of all in front of the last operator, if there is one. -/
  operand : Option Nat
  /-- Whether nothing but hyphens was read. -/
  atStart : Bool
  deriving DecidableEq, Repr

namespace OpenClass

/-- A class of which nothing was read. -/
def start : OpenClass := ⟨[], none, true⟩

/-- The height of the set that was read. -/
def height (c : OpenClass) : Nat :=
  match c.operand with
  | none => heightOfParts c.parts
  | some height => Nat.max height (heightOfParts c.parts) + 1

/-- One more part. -/
def add (c : OpenClass) (height : Nat) : OpenClass := ⟨height :: c.parts, c.operand, false⟩

/-- A hyphen at the start. -/
def addHyphen (c : OpenClass) : OpenClass := ⟨0 :: c.parts, c.operand, true⟩

/-- An operator behind what was read. -/
def operator (c : OpenClass) : OpenClass := ⟨[], some c.height, false⟩

end OpenClass

/-- The names of classes. -/
def classNames : List String :=
  ["alnum", "alpha", "ascii", "blank", "cntrl", "digit", "graph", "lower", "print", "punct",
    "space", "upper", "word", "xdigit"]

/-- What follows a named class whose opening bracket was read, and whether it is negated. -/
def readNamed? (text : List Char) : Option (Bool × List Char) :=
  match text with
  | ':' :: text =>
    let (negated, text) := match text with
      | '^' :: rest => (true, rest)
      | text => (false, text)
    match text.dropWhile fun c => c != ':' with
    | ':' :: ']' :: rest =>
      if classNames.contains (String.ofList (text.takeWhile fun c => c != ':')) then
        some (negated, rest)
      else none
    | _ => none
  | _ => none

/-- What follows an operator, if the text begins with one. -/
def readOperator? : List Char → Option (List Char)
  | '&' :: '&' :: rest => some rest
  | '-' :: '-' :: rest => some rest
  | '~' :: '~' :: rest => some rest
  | _ => none

/-- Reads a part that stands alone or at an end of a range. -/
def readEnd (s : Scope) : List Char → Option (Atom × List Char)
  | [] => none
  | '\\' :: rest => readEscape s rest
  | c :: rest => some (.character c false, rest)

/-- Whether a part may stand alone in a class. -/
def isListed (s : Scope) : Atom → Bool
  | .character c _ => s.allowsListed c
  | .tabled negated => s.allowsTabled negated
  | _ => false

/-- Whether two parts are the ends of a range. -/
def isRange (s : Scope) : Atom → Atom → Bool
  | .character first _, .character last _ =>
    first ≤ last && s.allowsListed first && s.allowsListed last
  | _, _ => false

/-- What follows a part that stands alone or a range. A hyphen makes no range in front of the
closing bracket or of another hyphen. -/
def readPart (s : Scope) (text : List Char) : Option (List Char) :=
  match readEnd s text with
  | none => none
  | some (first, rest) =>
    match s.skip rest with
    | [] => none
    | '-' :: rest =>
      if s.peek? rest == some ']' || s.peek? rest == some '-' then
        if isListed s first then some ('-' :: rest) else none
      else
        match readEnd s (s.skip rest) with
        | none => none
        | some (last, rest) => if isRange s first last then some rest else none
    | rest => if isListed s first then some rest else none

/-- What follows the opening bracket of a class, and the sign of negation behind it. -/
def readOpening (s : Scope) (text : List Char) : Option (List Char) :=
  match s.skip text with
  | '^' :: rest => if s.allowsNegation then some rest else none
  | rest => some rest

/-- Reads the rest of a class, the innermost of those that are open in front, and gives its height.
Every step takes a character, so `bound` may be the length of the text. -/
def readClass (s : Scope) : (bound : Nat) → List OpenClass → List Char → Option (Nat × List Char)
  | 0, _, _ => none
  | _ + 1, [], _ => none
  | bound + 1, c :: outer, text =>
    match s.skip text with
    | [] => none
    | '-' :: rest =>
      if c.atStart then
        if s.allowsListed '-' then readClass s bound (c.addHyphen :: outer) rest else none
      else
        match readOperator? ('-' :: rest) with
        | some rest => readClass s bound (c.operator :: outer) rest
        | none => (readPart s ('-' :: rest)).bind (readClass s bound (c.add 0 :: outer))
    | ']' :: rest =>
      if c.atStart && c.parts.isEmpty then
        if s.allowsListed ']' then readClass s bound (c.add 0 :: outer) rest else none
      else
        match outer with
        | [] => some (c.height + 1, rest)
        | parent :: outer => readClass s bound (parent.add (c.height + 1) :: outer) rest
    | '[' :: rest =>
      match readNamed? rest with
      | some (negated, rest) =>
        if s.allowsNamed negated then readClass s bound (c.add 0 :: outer) rest else none
      | none => (readOpening s rest).bind (readClass s bound (.start :: c :: outer))
    | text =>
      match readOperator? text with
      | some rest => readClass s bound (c.operator :: outer) rest
      | none => (readPart s text).bind (readClass s bound (c.add 0 :: outer))

end Baggage.Log.Pattern

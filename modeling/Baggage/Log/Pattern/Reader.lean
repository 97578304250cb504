import Baggage.Log.Pattern.CharClass
import Baggage.Text.Alphanumeric

/-!
# Baggage.Log.Pattern.Reader

**Patterns**, that is regular expressions, as far as whether a text is one. Nothing is matched
against them here: `fault?` says why a text is no pattern, or that it is one.

A pattern consists of branches between bars, a branch of items one after the other. An item is a
smallest part, a class, a group in parentheses, or one of these with signs of repetition behind it;
a change of flags stands among the items, but cannot be repeated. Items may be nested up to a limit,
where a class, a group, a repetition, several items in a row and several branches each count for
one.
-/

namespace Baggage.Log.Pattern

/-- Why a text is no pattern that can be used. -/
inductive Fault where
  /-- It is not well formed. -/
  | malformed
  /-- It asks for a boundary of a word of Unicode. -/
  | wordBoundary
  deriving DecidableEq, Repr

/-- The wording of a fault. -/
def Fault.message : Fault → String
  | malformed => "error building NFA"
  | wordBoundary =>
    "unsupported regex feature for DFAs: cannot build DFAs for regexes with Unicode word "
      ++ "boundaries; switch to ASCII word boundaries, or heuristically enable Unicode word "
      ++ "boundaries or use a different regex engine"

/-- One of the items of a branch. -/
inductive Item where
  /-- A change of flags. -/
  | setting
  /-- Something to be matched, with its height. -/
  | part (height : Nat)
  deriving DecidableEq, Repr

/-- The height of an item. -/
def Item.height : Item → Nat
  | setting => 0
  | part height => height

/-- What was read of the pattern, or of one of its groups. -/
structure Level where
  /-- The heights of the branches that are complete. -/
  branches : List Nat
  /-- The items of the branch that is being read, the last one in front. -/
  items : List Item
  /-- The flags in force. -/
  scope : Scope

/-- The height of the branch that is being read. -/
def Level.branchHeight (l : Level) : Nat := heightOfParts (l.items.map (·.height))

/-- The height of a level. -/
def Level.height (l : Level) : Nat := heightOfParts (l.branchHeight :: l.branches)

/-- What was read of a pattern. -/
structure State where
  /-- The innermost group that is open, or the pattern. -/
  level : Level
  /-- What was read around it, from inside out. -/
  outer : List Level
  /-- The names of groups. -/
  names : List (List Char)
  /-- Whether a boundary of a word of Unicode is asked for. -/
  asksForWords : Bool

namespace State

/-- Nothing was read. -/
def start : State := ⟨⟨[], [], .standard⟩, [], [], false⟩

/-- One more item. -/
def add (st : State) (item : Item) : State :=
  { st with level := { st.level with items := item :: st.level.items } }

/-- One more smallest part. -/
def addAtom (st : State) (atom : Atom) : Option State :=
  if atom.isAllowed st.level.scope then
    some { st.add (.part 0) with
      asksForWords := st.asksForWords || (atom == .place true && st.level.scope.unicode) }
  else none

/-- A new branch. -/
def branch (st : State) : State :=
  { st with level :=
    { st.level with branches := st.level.branchHeight :: st.level.branches, items := [] } }

/-- The last item is repeated. -/
def repeated (st : State) : Option State :=
  match st.level.items with
  | .part height :: items =>
    some { st with level := { st.level with items := .part (height + 1) :: items } }
  | _ => none

/-- A group is opened, with flags of its own. -/
def opened (st : State) (scope : Scope) : State :=
  { st with level := ⟨[], [], scope⟩, outer := st.level :: st.outer }

/-- The innermost group is closed. -/
def close (st : State) : Option State :=
  match st.outer with
  | [] => none
  | level :: outer =>
    some ({ st with level, outer }.add (.part (st.level.height + 1)))

/-! ### Groups -/

/-- Whether a text may name a group. -/
def isName (name : List Char) : Bool :=
  match name with
  | [] => false
  | c :: rest =>
    (c == '_' || Text.isLetter c)
      && rest.all fun c => ['_', '.', '[', ']'].contains c || Text.isAlphanumeric c

/-- A group with a name is opened. -/
def openNamed (st : State) (text : List Char) : Option (State × List Char) :=
  let name := text.takeWhile fun c => c != '>'
  match text.dropWhile fun c => c != '>' with
  | _ :: rest =>
    if isName name && !st.names.contains name then
      some ({ st with names := name :: st.names }.opened st.level.scope, rest)
    else none
  | [] => none

/-- Flags are changed, for a group or for the rest of the innermost one. -/
def changeFlags (st : State) (text : List Char) : Option (State × List Char) :=
  let flags := text.takeWhile fun c => c != ':' && c != ')'
  let scope := st.level.scope.change flags
  if Scope.areFlags flags then
    match text.dropWhile fun c => c != ':' && c != ')' with
    | ':' :: rest => some (st.opened scope, rest)
    | _ :: rest =>
      if flags.isEmpty then none
      else some ({ st.add .setting with
        level := { (st.add .setting).level with scope } }, rest)
    | [] => none
  else none

/-- Reads what follows an opening parenthesis. -/
def openGroup (st : State) (text : List Char) : Option (State × List Char) :=
  match st.level.scope.skip text with
  | '?' :: 'P' :: '<' :: rest => st.openNamed rest
  | '?' :: '<' :: rest => st.openNamed rest
  | '?' :: rest => st.changeFlags rest
  | rest => some (st.opened st.level.scope, rest)

/-! ### Patterns -/

/-- Reads the rest of an item that begins with a character. A repetition may have a question mark
behind it; a count of repetitions, in braces, is never complete. -/
def step (st : State) (c : Char) (rest : List Char) : Option (State × List Char) :=
  match c with
  | '(' => st.openGroup rest
  | ')' => st.close.map fun st => (st, rest)
  | '|' => some (st.branch, rest)
  | '[' => do
    let rest ← readOpening st.level.scope rest
    let (height, rest) ← readClass st.level.scope (rest.length + 1) [.start] rest
    return (st.add (.part height), rest)
  | '\x7b' => none
  | '\\' => do
    let (atom, rest) ← readEscape st.level.scope rest
    return (← st.addAtom atom, rest)
  | '.' => (st.addAtom .any).map fun st => (st, rest)
  | '^' => (st.addAtom (.place false)).map fun st => (st, rest)
  | '$' => (st.addAtom (.place false)).map fun st => (st, rest)
  | c =>
    if c == '?' || c == '*' || c == '+' then
      st.repeated.map fun st => (st, if rest.head? == some '?' then rest.drop 1 else rest)
    else (st.addAtom (.character c false)).map fun st => (st, rest)

/-- Reads the rest of a pattern. Every step takes a character, so `bound` may be the length of the
text. -/
def read : (bound : Nat) → State → List Char → Option State
  | 0, _, _ => none
  | bound + 1, st, text =>
    match st.level.scope.skip text with
    | [] => some st
    | c :: rest => do
      let (st, rest) ← st.step c rest
      read bound st rest

end State

/-- How deeply a pattern may be nested. -/
def heightLimit : Nat := 250

/-- Why a text is no pattern that can be used, if it is none. -/
def fault? (text : String) : Option Fault :=
  match State.start.read (text.toList.length + 1) text.toList with
  | none => some .malformed
  | some st =>
    if !st.outer.isEmpty || heightLimit < st.level.height then some .malformed
    else if st.asksForWords then some .wordBoundary
    else none

end Baggage.Log.Pattern

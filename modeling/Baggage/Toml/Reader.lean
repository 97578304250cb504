import Baggage.Toml.Document
import Baggage.Toml.Key
import Baggage.Toml.Moment
import Baggage.Toml.Number

/-!
# Baggage.Toml.Reader

**Reading TOML** 1.0: lines of keys with values, table headers, comments. An array or inline table
is read with a limit on how deeply it may contain others, on which the recursion descends; lists
and lines descend on a bound for the length of the text, which is never reached.
-/

namespace Baggage.Toml

/-! ### Values -/

/-- Reads a fixed word and gives the value that it stands for. -/
def readWord (word : List Char) (value : Toml) : Reader Toml := fun text =>
  if word.isPrefixOf text then .ok (value, text.drop word.length) else unexpectedAt text

/-- Reads the items of an array after its opening bracket. -/
def readItems (item : Reader Toml) (whole : Nat) (read : List Toml) :
    (bound : Nat) → Reader (List Toml)
  | 0, _ => .error .endOfText
  | bound + 1, text =>
    match skipLines whole text with
    | ']' :: rest => .ok (read.reverse, rest)
    | text => do
      let (value, rest) ← item text
      match skipLines whole rest with
      | ',' :: rest => readItems item whole (value :: read) bound rest
      | ']' :: rest => return ((value :: read).reverse, rest)
      | rest => unexpectedAt rest

/-- Reads a key, its equals sign and its value, with the blanks after it. -/
def readAssignment (item : Reader Toml) (whole : Nat) :
    Reader ((List String × String) × Toml) := fun text => do
  let (key, rest) ← readKey whole text
  match rest with
  | '=' :: rest =>
    let (value, rest) ← item (skipBlanks rest)
    return ((key, value), skipBlanks rest)
  | rest => unexpectedAt rest

/-- Adds a value to the fields of a table under construction. -/
def assignTo (fields : Fields) (key : List String × String) (value : Toml) :
    Except ReadError Fields :=
  match fields.assignKey key.1 key.2 value with
  | some fields => .ok fields
  | none => .error (.redefined key.2)

/-- Reads the fields of an inline table that has at least one, up to and including its brace. -/
def readFields (item : Reader Toml) (whole : Nat) (fields : Fields) :
    (bound : Nat) → Reader Fields
  | 0, _ => .error .endOfText
  | bound + 1, text => do
    let ((key, value), rest) ← readAssignment item whole text
    let fields ← assignTo fields key value
    match rest with
    | ',' :: rest => readFields item whole fields bound rest
    | '\x7d' :: rest => return (fields, rest)
    | rest => unexpectedAt rest

/-- Reads an inline table after its opening brace. -/
def readInlineTable (item : Reader Toml) (whole : Nat) : Reader Toml := fun text =>
  match skipBlanks text with
  | '\x7d' :: rest => .ok (.table [], rest)
  | text => do
    let (fields, rest) ← readFields item whole [] whole text
    return (.table (finishFields fields), rest)

/-- Reads a value whose arrays and inline tables are read by the given readers of what follows
their opening bracket or brace. -/
def readValueWith (array inline : Reader Toml) (whole : Nat) : Reader Toml := fun text =>
  match text with
  | '[' :: rest => array rest
  | '\x7b' :: rest => inline rest
  | '"' :: rest => do
    let (s, rest) ← readString '"' true whole rest
    return (.string s, rest)
  | '\'' :: rest => do
    let (s, rest) ← readString '\'' false whole rest
    return (.string s, rest)
  | 't' :: _ => readWord ['t', 'r', 'u', 'e'] (.bool true) text
  | 'f' :: _ => readWord ['f', 'a', 'l', 's', 'e'] (.bool false) text
  | 'i' :: _ => readWord ['i', 'n', 'f'] (.float (.infinity false)) text
  | 'n' :: _ => readWord ['n', 'a', 'n'] (.float .undefined) text
  | c :: _ =>
    if c == '+' || c == '-' || c.isDigit then do
      match ← readMoment? text with
      | some found => return found
      | none => readNumber text
    else .error (.unexpected c)
  | [] => .error .endOfText

/-- Reads a value in which arrays and inline tables are nested at most `depth` deep. -/
def readValue (whole : Nat) : (depth : Nat) → Reader Toml
  | 0 => readValueWith (fun _ => .error .tooDeep) (fun _ => .error .tooDeep) whole
  | depth + 1 =>
    readValueWith
      (fun text => do
        let (items, rest) ← readItems (readValue whole depth) whole [] whole text
        return (.array items, rest))
      (readInlineTable (readValue whole depth) whole) whole

/-! ### Documents -/

/-- A document read so far: its fields, and the path of the header that the next lines belong to. -/
structure Progress where
  /-- The fields of the document. -/
  fields : Fields
  /-- The table that keys are assigned in. -/
  table : List String

/-- What a change of the document leads to. -/
def changed (name : String) (table : List String) : Option Fields → Except ReadError Progress
  | some fields => .ok ⟨fields, table⟩
  | none => .error (.redefined name)

/-- Reads the rest of a header after its brackets opened, with the brackets that close it. -/
def readHeader (closing : List Char) (whole : Nat) : Reader (List String × String) := fun text => do
  let (key, rest) ← readKey whole text
  if closing.isPrefixOf rest then
    let (_, rest) ← readLineEnd (rest.drop closing.length)
    return (key, rest)
  else unexpectedAt rest

/-- Reads one line that is not blank. -/
def readLine (whole : Nat) (progress : Progress) : Reader Progress := fun text =>
  match text with
  | '[' :: '[' :: rest => do
    let ((parents, name), rest) ← readHeader [']', ']'] whole rest
    return (← changed name (parents ++ [name]) (progress.fields.declareItem parents name), rest)
  | '[' :: rest => do
    let ((parents, name), rest) ← readHeader [']'] whole rest
    return (← changed name (parents ++ [name]) (progress.fields.declare parents name), rest)
  | text => do
    let (((parents, name), value), rest) ←
      readAssignment (readValue whole depthLimit) whole text
    let (_, rest) ← readLineEnd rest
    return (← changed name progress.table
      (progress.fields.assign progress.table parents name value), rest)

/-- Reads the lines of a document. -/
def readLines (whole : Nat) (progress : Progress) : (bound : Nat) → List Char →
    Except ReadError Fields
  | 0, _ => .error .endOfText
  | bound + 1, text =>
    match skipLines whole text with
    | [] => .ok progress.fields
    | text => do
      let (progress, rest) ← readLine whole progress text
      readLines whole progress bound rest

/-- A text without the byte order mark in front. -/
def skipMark : List Char → List Char
  | '\ufeff' :: rest => rest
  | text => text

/-- The fields of the document that a text is. -/
def parse (text : String) : Except ReadError (List (String × Toml)) := do
  let text := skipMark text.toList
  let bound := text.length + 1
  return finishFields (← readLines bound ⟨[], []⟩ bound text)

end Baggage.Toml

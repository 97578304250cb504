import Baggage.Decimal.Numeral
import Baggage.Log.Pattern.Reader
import Baggage.Log.Record
import Baggage.Text.Alphanumeric
import Baggage.Text.Blank

/-!
# Baggage.Log.Directive

**Directives** on what the log shows. A directive is a level; or the beginning of a target, and a
level behind an equals sign. Between the two may stand, in brackets, the name of a span and, in
braces, a field: `target[span{field=value}]=level`. Without a level everything is shown.

The value of a field is a number, or a pattern that the value is to match. A record stands in no
span, and its fields are not looked into, so a directive that names a span or the value of a field
decides on no record; it is refused all the same if the pattern is none.
-/

namespace Baggage.Log

/-- What a directive asks of the fields. -/
structure FieldTest where
  /-- The name of a field. -/
  name : String
  /-- The number or the pattern that its value is to match, if it matters. -/
  value : Option String
  deriving DecidableEq, Repr

/-- What is shown of the records from some targets. -/
structure Directive where
  /-- The beginning of the targets. -/
  target : String
  /-- The span that the directive is about, if it is about one. -/
  span : Option String := none
  /-- The field that the directive is about, if it is about one. -/
  field : Option FieldTest := none
  /-- How many of the levels are shown, the most severe ones first. -/
  verbosity : Nat
  deriving DecidableEq, Repr

namespace Directive

/-! ### Which records a directive is about -/

/-- Whether a directive can decide on records: it names no span and no value of a field. -/
def isAboutRecords (d : Directive) : Bool := d.span.isNone && d.field.all (·.value.isNone)

/-- Whether a directive is about a record. -/
def appliesTo (d : Directive) (r : Record) : Bool :=
  d.isAboutRecords && d.target.toList.isPrefixOf r.target.toList
    && d.field.all fun field => r.fieldNames.contains field.name

/-- The order of directives by what they are about: a longer target counts for more, then a field,
then the later name of the field. -/
def compareScope (a b : Directive) : Ordering :=
  ((compare a.target.utf8ByteSize b.target.utf8ByteSize).then
    (compare a.field.toList.length b.field.toList.length)).then
      (compare (a.field.map (·.name)) (b.field.map (·.name)))

/-! ### Reading a directive -/

/-- Why a text is no directive. -/
inductive Fault where
  /-- It begins with a character that no directive begins with, or a bracket or brace is not
  closed, or something stands behind it. -/
  | malformed
  /-- The value of a field is neither a number nor a pattern. -/
  | pattern (fault : Pattern.Fault)
  /-- No level stands behind the equals sign. -/
  | level
  deriving DecidableEq, Repr

/-- The wording of a fault. -/
def Fault.message : Fault → String
  | malformed => "invalid filter directive"
  | pattern fault => "invalid field filter: " ++ fault.message
  | level =>
    "error parsing level filter: expected one of \"off\", \"error\", \"warn\", \"info\", "
      ++ "\"debug\", \"trace\", or a number 0-5"

/-- The verbosity that a number or a word stands for. -/
def verbosity? (text : List Char) : Option Nat :=
  match Numeral.natural? text with
  | some n => if n ≤ 5 then some n else none
  | none =>
    match (String.ofList text).toLower with
    | "off" => some 0
    | "error" => some Level.error.verbosity
    | "warn" => some Level.warn.verbosity
    | "info" => some Level.info.verbosity
    | "debug" => some Level.debug.verbosity
    | "trace" => some Level.trace.verbosity
    | _ => none

/-- Whether a directive may begin with a character, unless it begins with a bracket. -/
def isStart (c : Char) : Bool :=
  Text.isAlphanumeric c || c == '-' || c == ':' || c == '_'

/-- What is left to read of a directive. Its form is decided on the text without the blanks at
both its ends, and its parts are as many characters of the whole text: blanks in front move every
part. -/
structure Rest where
  /-- The text whose form is decided on. -/
  form : List Char
  /-- The text that the parts are taken from. -/
  whole : List Char

namespace Rest

/-- All of a text. -/
def ofText (text : List Char) : Rest := ⟨Text.trim text, text⟩

/-- The part in front of the first character that ends it, and what is left from there on. -/
def part (rest : Rest) (isEnd : Char → Bool) : String × Rest :=
  let size := (rest.form.takeWhile fun c => !isEnd c).length
  (String.ofList (rest.whole.take size), ⟨rest.form.drop size, rest.whole.drop size⟩)

/-- What is left behind the next character. -/
def next (rest : Rest) : Rest := ⟨rest.form.drop 1, rest.whole.drop 1⟩

end Rest

/-- The directive that consists of a level or of the beginning of a target. -/
def ofWord (text : List Char) : Directive :=
  match verbosity? text with
  | some verbosity => { target := "", verbosity }
  | none => { target := String.ofList text, verbosity := Level.trace.verbosity }

/-- A directive with the level behind its equals sign. -/
def withLevel (d : Directive) (level : List Char) : Except Fault Directive :=
  if level.isEmpty then .ok d
  else
    match verbosity? level with
    | some verbosity => .ok { d with verbosity }
    | none => .error .level

/-- A directive with what stands behind its closing bracket. -/
def readBehind (d : Directive) (rest : Rest) : Except Fault Directive :=
  match rest.form with
  | [] => .ok d
  | '=' :: _ => d.withLevel rest.next.whole
  | _ => .error .malformed

/-- What a text between braces asks of the fields. What stands behind a second equals sign does not
count. -/
def fieldTest (text : String) : Except Fault FieldTest :=
  match text.splitOn "=" with
  | name :: value :: _ =>
    if (Numeral.read? value).isSome then .ok ⟨name, some value⟩
    else
      match Pattern.fault? value with
      | none => .ok ⟨name, some value⟩
      | some fault => .error (.pattern fault)
  | _ => if text.isEmpty then .error .malformed else .ok ⟨text, none⟩

/-- A directive with the field behind its opening brace, and what follows. -/
def readField (d : Directive) (rest : Rest) : Except Fault Directive :=
  let (text, rest) := rest.part (· == '\x7d')
  if rest.form.isEmpty then .error .malformed
  else do
    let field ← fieldTest text
    match rest.next.form with
    | ']' :: _ => readBehind { d with field := some field } rest.next.next
    | _ => .error .malformed

/-- A directive with what stands behind its opening bracket. -/
def readSpan (d : Directive) (rest : Rest) : Except Fault Directive :=
  let (span, rest) := rest.part fun c => c == ']' || c == '\x7b'
  match rest.form with
  | ']' :: _ => { d with span := some span }.readBehind rest.next
  | '\x7b' :: _ =>
    { d with span := if span.isEmpty then none else some span }.readField rest.next
  | _ => .error .malformed

/-- The directive that a text consists of. -/
def parse (text : String) : Except Fault Directive :=
  let rest := Rest.ofText text.toList
  let everything (target : String) : Directive := { target, verbosity := Level.trace.verbosity }
  match rest.form with
  | [] => .error .malformed
  | '[' :: _ => (everything "").readSpan rest.next
  | c :: _ =>
    if !isStart c then .error .malformed
    else
      let (target, rest) := rest.part fun c => c == '=' || c == '['
      match rest.form with
      | '=' :: _ => (everything target).withLevel rest.next.whole
      | '[' :: _ => (everything target).readSpan rest.next
      | _ => .ok (ofWord text.toList)

end Directive

end Baggage.Log

import Baggage.Log.Filter
import Baggage.Settings.Basic

/-!
# Baggage.Log.Line

The **lines of the log**. A record becomes a line of text, with its fields behind the message, or a
JSON value, with the message among the fields. What is reported while there is no log yet is a line
of text that stands for itself.
-/

namespace Baggage.Log

/-- One line of the log. -/
inductive Line where
  /-- A line of text. -/
  | text (s : String)
  /-- A JSON value. -/
  | json (value : Json)

/-- A line as it is written. -/
def Line.write : Line → String
  | text s => s
  | json value => value.compact

namespace Record

/-- A field behind the message. -/
def fieldText (field : String × Value) : String := " " ++ field.1 ++ "=" ++ field.2.write

/-- A record as text. -/
def toText (r : Record) : String :=
  r.level.name ++ " " ++ r.target ++ ": " ++ r.message ++ "".intercalate (r.fields.map fieldText)

/-- A record as a JSON value. -/
def toJson (r : Record) : Json :=
  .object
    [("level", .string r.level.name),
      ("fields", .object
        (("message", .string r.message) :: r.fields.map fun (name, value) => (name, value.toJson))),
      ("target", .string r.target)]

/-- A record in the form that the settings ask for. -/
def toLine (s : Settings.Logging) (r : Record) : Line :=
  if s.format == "json" then .json r.toJson else .text r.toText

end Record

/-- The filter in force: the one asked for from outside, if it is well formed, otherwise the one in
the settings. -/
def filterOf (s : Settings.Logging) (asked : Option String) : Filter :=
  (asked.bind Filter.parse?).getD (Filter.parse s.level)

/-- What is reported on pieces of the settings' filter that are no directives. -/
def notices (s : Settings.Logging) (asked : Option String) : List Line :=
  match asked.bind Filter.parse? with
  | some _ => []
  | none =>
    (Filter.rejected s.level).map fun (piece, fault) =>
      .text ("ignoring \x60" ++ piece ++ "\x60: " ++ fault.message)

/-- The log of some events under the given settings. -/
def lines (s : Settings.Logging) (asked : Option String) (events : List (Event Float)) :
    List Line :=
  notices s asked ++
    ((events.map Event.record).filter (filterOf s asked).shows).map (·.toLine s)

end Baggage.Log

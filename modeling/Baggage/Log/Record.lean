import Baggage.Event
import Baggage.Json.Printer
import Baggage.Text.Quoted

/-!
# Baggage.Log.Record

**Log records**: how each event is worded, how severe it is, which part of the program it comes
from, and in which fields its numbers are shown.
-/

namespace Baggage.Log

/-- How severe a record is. -/
inductive Level where
  /-- The command failed. -/
  | error
  /-- Something was not done as asked. -/
  | warn
  /-- Something was done. -/
  | info
  /-- A step on the way. -/
  | debug
  /-- The smallest steps. -/
  | trace
  deriving DecidableEq, Repr

namespace Level

/-- The name of a level. -/
def name : Level → String
  | error => "ERROR"
  | warn => "WARN"
  | info => "INFO"
  | debug => "DEBUG"
  | trace => "TRACE"

/-- The position of a level, the most severe one first. -/
def verbosity : Level → Nat
  | error => 1
  | warn => 2
  | info => 3
  | debug => 4
  | trace => 5

end Level

/-- The value of a field. -/
inductive Value where
  /-- A natural number. -/
  | count (n : Nat)
  /-- A double. -/
  | number (x : Float)
  /-- A text that stands for itself. -/
  | text (s : String)

/-- One entry of the log. -/
structure Record where
  /-- How severe it is. -/
  level : Level
  /-- The part of the program that it comes from. -/
  target : String
  /-- What happened. -/
  message : String
  /-- The fields, in the order in which they are shown. -/
  fields : List (String × Value)

/-- The names of a record's fields, of which the message is one. -/
def Record.fieldNames (r : Record) : List String := "message" :: r.fields.map (·.1)

/-- Numbers in log lines: positional from `10 ^ -4` to below `10 ^ 16`, otherwise with an exponent
that shows only a minus sign, and a whole number ends in `.0`. -/
def numberLayout : Decimal.Layout := ⟨some (-4), some 15, ".0", "", .up⟩

namespace Value

/-- A value in a line of text. -/
def write : Value → String
  | count n => toString n
  | number x => numberLayout.write x
  | text s => s

/-- A value in a JSON line. -/
def toJson : Value → Json
  | count n => .ofNat n
  | number x => .ofFloat x
  | text s => .string s

end Value

/-- An optional path, so that its presence shows. -/
def optionalPath : Option String → String
  | none => "None"
  | some path => "Some(" ++ Text.quoted path ++ ")"

end Log

namespace Event

open Log

/-- The solver of linear programs, as the log names it. -/
def solverTarget : String := "skyfare_solver::simplex"

/-- The choice of pieces, as the log names it. -/
def selectionTarget : String := "skyfare_luggage::selection"

/-- The requests of clients, as the log names them. -/
def requestTarget : String := "skyfare_luggage::api"

/-- The service, as the log names it. -/
def serviceTarget : String := "skyfare_server"

/-- The command line, as the log names it. -/
def consoleTarget : String := "skyfare"

/-- The log record of an event. -/
def record : Event Float → Record
  | solving variableCount rows artificials budget =>
    { level := .debug
      target := solverTarget
      message := "solving linear program"
      fields := [("variables", .count variableCount), ("constraints", .count rows),
        ("artificial", .count artificials), ("budget", .count budget)] }
  | pivot iteration row column =>
    { level := .debug
      target := solverTarget
      message := "pivot"
      fields := [("iteration", .count iteration), ("pivot_row", .count row),
        ("pivot_col", .count column)] }
  | artificialsPositive infeasibility =>
    { level := .debug
      target := solverTarget
      message := "phase one left artificial variables positive"
      fields := [("infeasibility", .number infeasibility)] }
  | unbounded column iterations =>
    { level := .warn
      target := solverTarget
      message := "linear program is unbounded"
      fields := [("column", .count column), ("iterations", .count iterations)] }
  | exhausted iterations =>
    { level := .warn
      target := solverTarget
      message := "simplex iteration budget exhausted"
      fields := [("iterations", .count iterations)] }
  | optimum iterations objective =>
    { level := .info
      target := solverTarget
      message := "simplex reached optimum"
      fields := [("iterations", .count iterations), ("objective", .number objective)] }
  | selected strategy pieces weight excessCharge =>
    { level := .debug
      target := selectionTarget
      message := "luggage selection complete"
      fields := [("strategy", .text strategy.label), ("pieces", .count pieces),
        ("weight", .number weight), ("excess_charge", .number excessCharge)] }
  | requestFailed error =>
    { level := .warn
      target := requestTarget
      message := "simplex request failed"
      fields := [("error", .text error)] }
  | served method path status =>
    { level := .info
      target := serviceTarget
      message := "api request"
      fields := [("method", .text method), ("path", .text path), ("status", .count status)] }
  | configured path =>
    { level := .debug
      target := consoleTarget
      message := "configuration loaded"
      fields := [("config", .text (optionalPath path))] }
  | fileRead path bytes =>
    { level := .debug
      target := consoleTarget
      message := "read request file"
      fields := [("path", .text path), ("bytes", .count bytes)] }
  | failed context error =>
    { level := .error
      target := consoleTarget
      message := context
      fields := [("error", .text error)] }

end Event

end Baggage

import Baggage.Decimal.Fixed
import Baggage.Fare.Quote
import Baggage.LinearProgram.Solver

/-!
# Baggage.Report.Text

**Results as text**, in lines for a reader at a console. Columns are filled up with spaces; a text
that is wider than its column is not cut.
-/

namespace Baggage.Report

/-! ### Columns -/

/-- A text filled up at its end. -/
def padEnd (width : Nat) (s : String) : String :=
  s ++ String.ofList (List.replicate (width - s.length) ' ')

/-- A text filled up at its beginning. -/
def padStart (width : Nat) (s : String) : String :=
  String.ofList (List.replicate (width - s.length) ' ') ++ s

/-- The text of lines, each of which ends. -/
def unlines (lines : List String) : String := "".intercalate (lines.map fun line => line ++ "\n")

/-! ### Solutions -/

/-- A number with four decimals. -/
def number (x : Float) : String := Decimal.fixed 4 x

/-- A number with four decimals, in a column. -/
def numberColumn (x : Float) : String := " " ++ padStart 12 (number x)

/-- The value of a variable, which is counted from one. -/
def variableLine (value : Float × Nat) : String :=
  "  x" ++ padEnd 19 (toString (value.2 + 1)) ++ numberColumn value.1

/-- The report on a row. -/
def rowLine (r : LinearProgram.RowReport Float) : String :=
  "  " ++ padEnd 20 r.name ++ numberColumn r.activity ++ numberColumn r.slack
    ++ numberColumn r.shadowPrice

/-- The names above the reports on the rows. -/
def rowHeading : String :=
  "  " ++ padEnd 20 "name" ++ " " ++ padStart 12 "activity" ++ " " ++ padStart 12 "slack"
    ++ " " ++ padStart 12 "shadow price"

/-- The rows that bind, if there are any. -/
def bindingLines (names : List String) : List String :=
  if names.isEmpty then []
  else "Binding constraints:" :: names.map (fun name => "  - " ++ name) ++ [""]

/-- The analysis of a solution. -/
def analysisLines (s : LinearProgram.Solution Float) : List String :=
  ["", "Analysis:", ""] ++ bindingLines s.bindingRows ++ ["Constraints:", rowHeading]
    ++ s.rows.map rowLine

/-- A solution, with its analysis if that is asked for. -/
def solution (s : LinearProgram.Solution Float) (analysis : Bool) : String :=
  unlines
    (["Status: OPTIMAL", "Objective value: " ++ number s.objective,
        "Iterations: " ++ toString s.iterations, "", "Variables:"]
      ++ s.values.zipIdx.map variableLine
      ++ if analysis then analysisLines s else [])

/-- What is shown where no solution was found. -/
def noSolution : String := unlines ["Status: FAILED"]

/-! ### Selections and fares -/

/-- A number as messages show it. -/
def plain (x : Float) : String := Decimal.Layout.message.write x

/-- The pieces that are kept, counted from one. -/
def keptPieces (indices : List Nat) : String :=
  if indices.isEmpty then "none" else ", ".intercalate (indices.map fun i => toString (i + 1))

/-- A choice of pieces under a budget. -/
def selection (c : Selection.Choice Float) (budget : Selection.Budget Float) : String :=
  unlines
    (["Selected pieces: " ++ keptPieces c.indices,
        "Total weight: " ++ plain c.weight ++ "kg (limit " ++ plain budget.maxWeight ++ "kg)",
        "Pieces: " ++ toString c.pieces ++ " (limit " ++ toString budget.maxPieces ++ ")",
        "Total value: " ++ plain c.value]
      ++ if Arithmetic.lt 0.0 c.excessCharge then
          ["Excess charge: " ++ Decimal.fixed 2 c.excessCharge]
        else [])

/-- A fare. -/
def fare (q : Fare.Quote Float) : String :=
  unlines
    ["Class: " ++ q.travelClass.name, q.message, q.limitMessage, "",
      "  Base fare:     " ++ padStart 12 q.baseFareText,
      "  Excess charge: " ++ padStart 12 q.excessChargeText,
      "  Total fare:    " ++ padStart 12 q.totalFareText]

end Baggage.Report

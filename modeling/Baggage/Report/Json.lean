import Baggage.Fare.Quote
import Baggage.Json.Printer
import Baggage.LinearProgram.Solver

/-!
# Baggage.Report.Json

**Results as JSON.** A solution has a short form, which clients of the service receive, and a full
form with the report on each row. Numbers that are not finite are shown as `null`.
-/

namespace Baggage

namespace LinearProgram

/-- The fields that both forms of a solution have. -/
def Solution.coreFields (s : Solution Float) : List (String × Json) :=
  [("values", .ofFloats s.values), ("objectiveValue", .ofFloat s.objective)]

/-- The short form of a solution: the point and the objective. -/
def Solution.toJson (s : Solution Float) : Json := .object s.coreFields

/-- The report on a row. -/
def RowReport.toJson (r : RowReport Float) : Json :=
  .object
    [("name", .string r.name), ("activity", .ofFloat r.activity), ("slack", .ofFloat r.slack),
      ("shadowPrice", .ofFloat r.shadowPrice), ("binding", .bool r.binding)]

/-- The full form of a solution, which begins with the fields of the short one. -/
def Solution.toFullJson (s : Solution Float) : Json :=
  .object (s.coreFields ++
    [("iterations", .ofNat s.iterations),
      ("analysis", .object [("constraints", .array (s.rows.map RowReport.toJson))])])

end LinearProgram

/-- A choice of pieces. -/
def Selection.Choice.toJson (c : Choice Float) : Json :=
  .object
    [("selectedPieces", .array (c.kept.map .bool)), ("totalWeight", .ofFloat c.weight),
      ("totalValue", .ofFloat c.value), ("totalPieces", .ofNat c.pieces),
      ("excessCharge", .ofFloat c.excessCharge)]

namespace Fare.Quote

/-- The prices in rupees. -/
def breakdownJson (q : Quote Float) : Json :=
  .object
    [("baseFare", .string q.baseFareText), ("excessCharge", .string q.excessChargeText),
      ("totalFare", .string q.totalFareText)]

/-- A fare with its texts. -/
def toJson (q : Quote Float) : Json :=
  .object
    [("travelClass", .string q.travelClass.name), ("luggageWeight", .ofFloat q.weight),
      ("weightLimit", .ofFloat q.limit), ("isExcess", .bool q.isExcess),
      ("excessWeight", .ofFloat q.excessWeight), ("baseFare", .ofFloat q.baseFare),
      ("excessCharge", .ofFloat q.excessCharge), ("totalFare", .ofFloat q.totalFare),
      ("message", .string q.message), ("weightLimitMessage", .string q.limitMessage),
      ("breakdown", q.breakdownJson)]

end Fare.Quote

end Baggage

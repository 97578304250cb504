import Baggage.Main
import Baggage.Service.Router
import Baggage.Toml.Reader
import Baggage.Proofs.Arithmetic
import Baggage.Proofs.Checked
import Baggage.Proofs.LinearProgram.RowSpace
import Baggage.Proofs.LinearProgram.Basis
import Baggage.Proofs.LinearProgram.Move
import Baggage.Proofs.LinearProgram.Vertex
import Baggage.Proofs.LinearProgram.Feasible
import Baggage.Proofs.LinearProgram.Start
import Baggage.Proofs.LinearProgram.Point
import Baggage.Proofs.LinearProgram.Idle
import Baggage.Proofs.LinearProgram.Solver
import Baggage.Proofs.LinearProgram.TwoPhase
import Baggage.Proofs.LinearProgram.Optimality
import Baggage.Proofs.LinearProgram.Duality
import Baggage.Proofs.LinearProgram.Verdicts
import Baggage.Proofs.Selection.Best
import Baggage.Proofs.Selection.Steps
import Baggage.Proofs.Selection.Grid
import Baggage.Proofs.Selection.Knapsack
import Baggage.Proofs.Selection.Budgets
import Baggage.Proofs.LinearProgram.Nearly
import Baggage.Proofs.LinearProgram.Scale
import Baggage.Proofs.LinearProgram.Tight
import Baggage.Proofs.LinearProgram.Residue
import Baggage.Proofs.LinearProgram.Support
import Baggage.Proofs.LinearProgram.Priced
import Baggage.Proofs.LinearProgram.Gap
import Baggage.Proofs.Selection.Relaxation
import Baggage.Proofs.Selection.Rounding
import Baggage.Proofs.LinearProgram.Budget
import Baggage.Proofs.LinearProgram.Report
import Baggage.Proofs.LinearProgram.Progress
import Baggage.Proofs.LinearProgram.Shared
import Baggage.Proofs.LinearProgram.Reformulation
import Baggage.Proofs.Selection.Worth
import Baggage.Proofs.Selection.Errors
import Baggage.Proofs.Console.Agreement
import Baggage.Proofs.LinearProgram.Sheet
import Baggage.Proofs.Selection.Words
import Baggage.Proofs.LinearProgram.Draft
import Baggage.Proofs.LinearProgram.Indices
import Baggage.Proofs.Service.Grammar
import Baggage.Proofs.Decimal.Normal
import Baggage.Proofs.Json.Integers
import Baggage.Proofs.Service.Blame
import Baggage.Proofs.Service.RequestLog
import Baggage.Proofs.Decimal.Numeral
import Baggage.Proofs.Decimal.Rounding
import Baggage.Proofs.Fare.Pricing
import Baggage.Proofs.Fare.Rupees
import Baggage.Proofs.Settings.Port
import Baggage.Proofs.LinearProgram.History
import Baggage.Proofs.LinearProgram.Representation
import Baggage.Proofs.LinearProgram.Redundant

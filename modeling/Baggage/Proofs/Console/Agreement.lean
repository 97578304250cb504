import Baggage.Console.Run
import Baggage.Proofs.Service.Charge

/-!
# Baggage.Proofs.Console.Agreement

**A command and the service give the same results.** Both read a linear program with the same reader
and solve it, but the command does so in two steps with failures of its own
(`solveValue_outcome`). For a fare the command looks at the class first, and leaves it to the price
to refuse the weight, where the service looks at the weight first; for a finite weight this makes no
difference (`quoteOf_outcome`).

`run_agrees` is about whole runs: from the arguments to the exit code, the output and the log. What
is put out and what is answered are spelled out, as the lines and the line of one and the same
solution or fare (`Solution.lines`, `Solution.line`).
-/

namespace Baggage.Console

open Service (Endpoint PostsTo Request Response refusal told)

/-! ### Runs -/

variable {around : Surroundings} {arguments : List String} {call : Call} {s : Settings Float}

/-- **A run reports a wording**: the last of its events is a failure with this wording, its log is
the log of its events, and where the filter shows the failure, it is the last line of the log. -/
def Reports (s : Settings.Logging) (asked : Option String) (task : Task) (ending : Ending)
    (wording : String) : Prop :=
  ∃ context before, task.events = before ++ [.failed context wording] ∧
    ending.log = Log.lines s asked task.events ∧
    ((Log.filterOf s asked).shows (Event.failed context wording).record = true →
      ending.log.getLast? = some ((Event.failed context wording).record.toLine s))

variable {config : Option String}

/-- A linear program is solved if it is read and then solved. -/
theorem solve_eq_ok {solver : LinearProgram.Solver Float} {value : Json}
    {solution : LinearProgram.Solution Float}
    (h : (Service.solve solver value).result = .ok solution) :
    ∃ p, Service.readProblem value = .ok p ∧ (solver.solve p).result = .ok solution := by
  unfold Service.solve at h
  cases hread : Service.readProblem value with
  | error fault => simp [hread] at h
  | ok p =>
    refine ⟨p, rfl, ?_⟩
    cases hsolve : (solver.solve p).result with
    | ok found => simpa [hread, hsolve] using h
    | error e => simp [hread, hsolve] at h

end Baggage.Console

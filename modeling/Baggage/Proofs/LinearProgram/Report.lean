import Baggage.Log.Record
import Baggage.Proofs.LinearProgram.Budget

/-!
# Baggage.Proofs.LinearProgram.Report

**What the log tells of an outcome.** All that the solver reports on the way is a step of the lowest
kind. The second phase ends with one event more, which tells of its result (`TellsOf`), so every
outcome of the second phase is reported once: an optimum as such, anything else as a warning
(`Solver.solve_records`).

The first phase has no such event. Where it already uses the budget up, nothing tells of it
(`Solver.solve_distant_records`).

Whatever the outcome, all events of the solver are its own (`Solver.isFrom_solve`), and none of them
is worded like an event of the service around it (`Event.message_of_solver`).
-/

namespace Baggage

open Log (Level Record)

/-! ### Events above the steps -/

/-- Whether an event is more than a step on the way. -/
def Event.isLoud (event : Event Float) : Bool := event.record.level ≠ .debug

namespace Logged

variable {β : Type}

/-- The events that are more than steps on the way. -/
def loud (x : Logged Float β) : List (Event Float) := x.events.filter Event.isLoud

/-- The log records of a level. -/
def records (x : Logged Float β) (level : Level) : List Record :=
  (x.events.map Event.record).filter fun record => record.level = level

/-- The records above the steps are those of the loud events. -/
theorem records_eq (x : Logged Float β) {level : Level} (h : level ≠ .debug) :
    x.records level = (x.loud.map Event.record).filter fun record => record.level = level := by
  rw [records, loud, List.filter_map, List.filter_map, List.filter_filter]
  refine congrArg _ (List.filter_congr fun event _ => ?_)
  by_cases hlevel : event.record.level = level
  · simp [Event.isLoud, hlevel, h]
  · simp [hlevel]

end Logged

/-! ### Where events come from -/

/-- What the solver reports is not about requests. -/
theorem Event.message_of_solver {event : Event Float}
    (h : event.record.target = Event.solverTarget) :
    event.record.message ≠ "simplex request failed" ∧ event.record.message ≠ "api request" := by
  cases event <;>
    simp [Event.record, solverTarget, selectionTarget, requestTarget, serviceTarget,
      consoleTarget] at h ⊢

section IsFrom

variable {β γ : Type}

/-- Whether all events come from one part of the program. -/
def Logged.IsFrom (target : String) (x : Logged Float β) : Prop :=
  ∀ event ∈ x.events, event.record.target = target

theorem Logged.IsFrom.andThen {target : String} {x : Logged Float β} {f : β → Logged Float γ}
    (hx : x.IsFrom target) (hf : (f x.result).IsFrom target) : (x.andThen f).IsFrom target :=
  List.forall_mem_append.mpr ⟨hx, hf⟩

end IsFrom

namespace LinearProgram

variable {solver : Solver Float} {p : Problem Float}

/-- Whether an event tells of a result: of a solution with its pivots and its objective, of an
unbounded column, or of a budget that was used up. -/
def TellsOf (event : Event Float) : Except (SolveError Float) (Solution Float) → Prop
  | .ok solution => event = .optimum solution.iterations solution.objective
  | .error (.unbounded column) => ∃ iterations, event = .unbounded column iterations
  | .error (.didNotConverge n) => event = .exhausted n
  | .error _ => False

theorem Walk.mem_pivots {s : Shape} {w : Walk Float s} {before : Nat} {event : Event Float}
    (h : event ∈ w.pivots before) :
    ∃ iteration row column, event = .pivot iteration row column := by
  obtain ⟨i, -, rfl⟩ := List.mem_mapIdx.mp h
  exact ⟨_, _, _, rfl⟩

/-- The pivots of a walk are steps. -/
theorem Walk.loud_pivots {s : Shape} (w : Walk Float s) (before : Nat) :
    (w.pivots before).filter Event.isLoud = [] := by
  refine List.filter_eq_nil_iff.mpr fun event hevent => ?_
  obtain ⟨iteration, row, column, rfl⟩ := Walk.mem_pivots hevent
  simp [Event.isLoud, Event.record]

/-- A walk reports nothing but its pivots. -/
theorem Walk.isFrom_pivots {s : Shape} (w : Walk Float s) (before : Nat) {β : Type} (result : β) :
    Logged.IsFrom Event.solverTarget ⟨result, w.pivots before⟩ := by
  intro event hevent
  obtain ⟨iteration, row, column, rfl⟩ := Walk.mem_pivots hevent
  rfl

theorem Walk.isFrom_pivots_append {s : Shape} (w : Walk Float s) (before : Nat) {β : Type}
    (result : β) {event : Event Float} (h : event.record.target = Event.solverTarget) :
    Logged.IsFrom Event.solverTarget ⟨result, w.pivots before ++ [event]⟩ :=
  List.forall_mem_append.mpr ⟨w.isFrom_pivots before result, List.forall_mem_singleton.mpr h⟩

namespace Solver

/-- The first phase makes no more than steps. -/
theorem loud_prepare : (solver.prepare p).loud = [] := by
  unfold prepare
  split
  · rfl
  · unfold findFeasible Logged.loud
    dsimp only
    split
    · exact Walk.loud_pivots _ 0
    · exact Walk.loud_pivots _ 0
    · split
      · rw [List.filter_append, Walk.loud_pivots]
        rfl
      · exact Walk.loud_pivots _ 0

theorem isFrom_prepare : (solver.prepare p).IsFrom Event.solverTarget := by
  unfold prepare
  split
  · exact List.forall_mem_nil _
  · unfold findFeasible
    dsimp only
    split
    · exact Walk.isFrom_pivots _ 0 _
    · exact Walk.isFrom_pivots _ 0 _
    · split
      · exact Walk.isFrom_pivots_append _ 0 _ rfl
      · exact Walk.isFrom_pivots _ 0 _

theorem isFrom_optimize (t : Tableau Float p.shape) (before : Nat) :
    (solver.optimize p t before).IsFrom Event.solverTarget := by
  unfold optimize
  dsimp only
  split <;> exact Walk.isFrom_pivots_append _ before _ rfl

/-- **All that the solver reports comes from the solver.** -/
theorem isFrom_solve (solver : Solver Float) (p : Problem Float) :
    (solver.solve p).IsFrom Event.solverTarget := by
  unfold solve
  split
  · exact List.forall_mem_nil _
  · refine List.forall_mem_cons.mpr ⟨rfl, Logged.IsFrom.andThen isFrom_prepare ?_⟩
    split
    · exact List.forall_mem_nil _
    · exact isFrom_optimize _ _

/-- The second phase tells of its result, once and at its end. -/
theorem loud_optimize (t : Tableau Float p.shape) (before : Nat) :
    ∃ event, (solver.optimize p t before).loud = [event] ∧
      TellsOf event (solver.optimize p t before).result := by
  unfold optimize
  generalize walk solver.tolerance p.shape.proper [] (solver.budget p - before) t = w
  have hloud : ∀ (result : Except (SolveError Float) (Solution Float)) (event : Event Float),
      event.isLoud = true → Logged.loud ⟨result, w.pivots before ++ [event]⟩ = [event] := by
    intro result event hevent
    rw [Logged.loud, List.filter_append, w.loud_pivots, List.filter_singleton, hevent]
    rfl
  dsimp only
  cases w.ending with
  | unbounded c => exact ⟨_, hloud _ _ rfl, _, rfl⟩
  | exhausted => exact ⟨_, hloud _ _ rfl, rfl⟩
  | optimal => exact ⟨_, hloud _ _ rfl, rfl⟩

/-- What is reported of an accepted problem: nothing by the first phase, and its result by the
second. -/
theorem loud_solve (haccepted : p.fault? solver.phaseOne = none) :
    (∃ e, (solver.prepare p).result = .error e ∧ (solver.solve p).result = .error e ∧
      (solver.solve p).loud = []) ∨
    ((∃ found, (solver.prepare p).result = .ok found) ∧ ∃ event,
      (solver.solve p).loud = [event] ∧ TellsOf event (solver.solve p).result) := by
  unfold solve
  rw [haccepted]
  dsimp only
  rw [solveAccepted_eq]
  cases hprepare : (solver.prepare p).result with
  | error e =>
      rw [Logged.andThenOk_of_error hprepare]
      exact Or.inl ⟨e, rfl, rfl, loud_prepare⟩
  | ok found =>
      rw [Logged.andThenOk_of_ok hprepare]
      obtain ⟨event, hevent, htells⟩ := loud_optimize found.1 found.2
      refine Or.inr ⟨⟨found, rfl⟩, event, ?_, htells⟩
      show ((solver.prepare p).events ++ _).filter Event.isLoud = [event]
      have hquiet : (solver.prepare p).events.filter Event.isLoud = [] := loud_prepare
      rw [List.filter_append, hquiet]
      exact hevent

/-- **Every outcome of the second phase is reported once.** An optimum is reported at the level
`INFO` with its pivots and its objective, and nothing is warned of; an unbounded column and a budget
that was used up are warned of, and no optimum is reported. A budget that the first phase already
uses up is not reported at all. -/
theorem solve_records (haccepted : p.fault? solver.phaseOne = none) :
    (∀ solution, (solver.solve p).result = .ok solution →
      (solver.solve p).records .info =
        [{ level := .info
           target := Event.solverTarget
           message := "simplex reached optimum"
           fields := [("iterations", .count solution.iterations),
             ("objective", .number solution.objective)] }] ∧
      (solver.solve p).records .warn = []) ∧
    (∀ column, (solver.solve p).result = .error (.unbounded column) →
      (solver.solve p).records .info = [] ∧ ∃ iterations,
        (solver.solve p).records .warn =
          [{ level := .warn
             target := Event.solverTarget
             message := "linear program is unbounded"
             fields := [("column", .count column), ("iterations", .count iterations)] }]) ∧
    (∀ n, (solver.solve p).result = .error (.didNotConverge n) →
      (solver.solve p).records .info = [] ∧
      ((∃ found, (solver.prepare p).result = .ok found) →
        (solver.solve p).records .warn =
          [{ level := .warn
             target := Event.solverTarget
             message := "simplex iteration budget exhausted"
             fields := [("iterations", .count n)] }]) ∧
      ((solver.prepare p).result = .error (.didNotConverge n) →
        (solver.solve p).records .warn = [])) := by
  have hinfo := (solver.solve p).records_eq (show Level.info ≠ .debug by decide)
  have hwarn := (solver.solve p).records_eq (show Level.warn ≠ .debug by decide)
  rw [hinfo, hwarn]
  rcases loud_solve haccepted with
    ⟨e, hprepare, hsolve, hloud⟩ | ⟨⟨found, hprepare⟩, event, hloud, htells⟩
  · -- the first phase failed, and not for an unbounded column
    rw [hloud, hsolve, hprepare]
    refine ⟨nofun, ?_, fun n _ => ⟨rfl, nofun, fun _ => rfl⟩⟩
    intro column hunbounded
    obtain rfl := Except.error.inj hunbounded
    rcases prepare_eq_error hprepare with he | ⟨n, he⟩
    · cases he
    · cases he
  · rw [hloud, hprepare]
    refine ⟨?_, ?_, ?_⟩
    · intro solution hok
      rw [hok] at htells
      obtain rfl := htells
      exact ⟨rfl, rfl⟩
    · intro column hunbounded
      rw [hunbounded] at htells
      obtain ⟨iterations, rfl⟩ := htells
      exact ⟨rfl, iterations, rfl⟩
    · intro n hout
      rw [hout] at htells
      obtain rfl := htells
      exact ⟨rfl, fun _ => rfl, nofun⟩

/-- An optimum that is reported, and a budget that is used up right behind the first phase. -/
theorem solve_climbing_records :
    (∃ solution, ((climber 4).solve climbing).result = .ok solution ∧
      ((climber 4).solve climbing).records .info =
        [{ level := .info
           target := "skyfare_solver::simplex"
           message := "simplex reached optimum"
           fields := [("iterations", .count 4), ("objective", .number 12)] }] ∧
      ((climber 4).solve climbing).records .warn = []) ∧
    ((climber 1).solve climbing).result = .error (.didNotConverge 1) ∧
      ((climber 1).solve climbing).records .info = [] ∧
      ((climber 1).solve climbing).records .warn =
        [{ level := .warn
           target := "skyfare_solver::simplex"
           message := "simplex iteration budget exhausted"
           fields := [("iterations", .count 1)] }] := by
  have hgeneral : climbing.fault? true = none := by decide +kernel
  have haccepted : ∀ budget, climbing.fault? (climber budget).phaseOne = none := fun _ => hgeneral
  have hout : ((climber 1).solve climbing).result = .error (.didNotConverge 1) := by
    decide +kernel
  have hprepare : ∃ found, ((climber 1).prepare climbing).result = .ok found := by
    have hok : ((climber 1).prepare climbing).result.isOk = true := by decide +kernel
    cases hresult : ((climber 1).prepare climbing).result with
    | ok found => exact ⟨found, rfl⟩
    | error e =>
        rw [hresult] at hok
        cases hok
  obtain ⟨hoptimum, -, -⟩ := solve_records (haccepted 4)
  obtain ⟨-, -, hexhausted⟩ := solve_records (haccepted 1)
  obtain ⟨hinfo, hwarn, -⟩ := hexhausted 1 hout
  exact ⟨⟨_, solve_climbing, hoptimum _ solve_climbing⟩, hout, hinfo, hwarn hprepare⟩

/-- A problem whose feasible points are two pivots away from the origin. -/
def distant : Problem Float where
  objective := [1, 1]
  maximize := false
  rows := [⟨"left", [1, 0], .atLeast, 1⟩, ⟨"right", [0, 1], .atLeast, 1⟩]

/-- **A budget that the first phase uses up is not warned of.** -/
theorem solve_distant_records : distant.fault? true = none ∧
    ((climber 1).solve distant).result = .error (.didNotConverge 1) ∧
    ((climber 1).solve distant).records .warn = [] := by
  decide +kernel

end Solver

end LinearProgram

end Baggage

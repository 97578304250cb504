import Baggage.Proofs.LinearProgram.Feasible
import Baggage.Proofs.LinearProgram.Report
import Baggage.Proofs.Service.Charge
import Baggage.Proofs.Service.Grammar

/-!
# Baggage.Proofs.Service.Blame

**Who is to blame for an answer.** A linear program takes one of four ways through the service
(`solve_ends`): its body cannot be read, or the problem is refused, or it is solved, or it is
accepted and not solved. Only the last is the service's own fault, and only it is warned of.
`Blames` says this of the answer and of the log; `ChargesOrBlames` says of a charge that it is never
the service's fault.

A number of a client is finite, so of the reasons to refuse a problem only two are left
(`Describes.fault?_eq_none_iff`).
-/

namespace Baggage

open LinearProgram (Problem Row Solution SolveError Solver)
open Log (Record)

/-- The warnings among some events that a client's linear program was not solved. -/
def failures (events : List (Event Float)) : List Record :=
  (events.map Event.record).filter fun record =>
    record.level = .warn ∧ record.message = "simplex request failed"

theorem failures_append (before after : List (Event Float)) :
    failures (before ++ after) = failures before ++ failures after := by
  simp [failures]

namespace LinearProgram

/-- The errors that tell of the solution of a problem, and not of the problem. -/
inductive IsOutcome : SolveError Float → Prop where
  | unbounded (column : ℕ) : IsOutcome (.unbounded column)
  | didNotConverge (iterations : ℕ) : IsOutcome (.didNotConverge iterations)
  | infeasible : IsOutcome .infeasible

variable {solver : Solver Float} {p : Problem Float}

/-- An accepted problem fails for an outcome. -/
theorem Solver.isOutcome_of_accepted (haccepted : p.fault? solver.phaseOne = none)
    {error : SolveError Float} (h : (solver.solve p).result = .error error) : IsOutcome error := by
  rcases Solver.loud_solve haccepted with ⟨found, hprepare, hsolve, -⟩ | ⟨-, event, -, htells⟩
  · obtain rfl := Except.error.inj (hsolve.symm.trans h)
    rcases Solver.prepare_eq_error hprepare with rfl | ⟨n, rfl⟩
    · exact .infeasible
    · exact .didNotConverge n
  · rw [h] at htells
    cases error with
    | invalid fault => exact htells.elim
    | unbounded column => exact .unbounded column
    | didNotConverge n => exact .didNotConverge n
    | infeasible => exact .infeasible

theorem Solver.fault?_eq_none_of_ok {solution : Solution Float}
    (h : (solver.solve p).result = .ok solution) : p.fault? solver.phaseOne = none := by
  rcases Solver.solve_cases solver p with
    ⟨fault, -, hsolve⟩ | ⟨-, hfault, -⟩ | ⟨-, -, hfault, -⟩
  · cases hsolve.symm.trans h
  · exact hfault
  · exact hfault

/-- The solver does not warn of requests. -/
theorem Solver.failures_solve (solver : Solver Float) (p : Problem Float) :
    failures (solver.solve p).events = [] := by
  refine List.filter_eq_nil_iff.mpr <| List.forall_mem_map.mpr fun event hevent => ?_
  have hmessage := (Event.message_of_solver (Solver.isFrom_solve solver p event hevent)).1
  simp [hmessage]

end LinearProgram

namespace Service

open LinearProgram (IsOutcome)

variable {solver : Solver Float} {body : Json} {p : Problem Float}

/-! ### The ways of a linear program -/

/-- **The ways that a linear program takes**, with all that is reported on them. -/
theorem solve_ends (solver : Solver Float) (body : Json) :
    (∃ fault, readProblem body = .error fault ∧
      solve solver body = .quiet (.error (.unintelligible fault))) ∨
    ∃ p, readProblem body = .ok p ∧
      ((∃ fault, p.fault? solver.phaseOne = some fault ∧
          solve solver body = .quiet (.error (.unsolved (.invalid fault)))) ∨
        (∃ solution, p.fault? solver.phaseOne = none ∧ (solver.solve p).result = .ok solution ∧
          solve solver body = ⟨.ok solution, (solver.solve p).events⟩) ∨
        ∃ error, p.fault? solver.phaseOne = none ∧ (solver.solve p).result = .error error ∧
          IsOutcome error ∧
          solve solver body = ⟨.error (.unsolved error),
            (solver.solve p).events ++ [.requestFailed error.message]⟩) := by
  unfold solve
  cases hread : readProblem body with
  | error fault => exact Or.inl ⟨fault, rfl, rfl⟩
  | ok p =>
      refine Or.inr ⟨p, rfl, ?_⟩
      cases hfault : p.fault? solver.phaseOne with
      | some fault =>
          have hsolve : solver.solve p = .quiet (.error (.invalid fault)) := by
            rw [Solver.solve, hfault]
          dsimp only
          rw [hsolve]
          exact Or.inl ⟨fault, rfl, rfl⟩
      | none =>
          dsimp only
          unfold Logged.andThen
          cases hresult : (solver.solve p).result with
          | ok solution =>
              refine Or.inr (Or.inl ⟨solution, rfl, rfl, ?_⟩)
              simp
          | error error =>
              have houtcome := Solver.isOutcome_of_accepted hfault hresult
              refine Or.inr (Or.inr ⟨error, rfl, rfl, houtcome, ?_⟩)
              cases houtcome <;> rfl

/-! ### The reasons to refuse a problem -/

theorem isFinite_of_fits {numbers : List Json.Number}
    (h : (Json.array (numbers.map .number)).Fits) :
    ∀ x ∈ numbers.map Json.Number.toFloat, x.isFinite = true := by
  cases h with
  | array hitems =>
      refine List.forall_mem_map.mpr fun n hn => ?_
      cases hitems _ (List.mem_map_of_mem hn) with
      | number hfits => exact hfits.isFinite

/-- The rows of a client bound from above, and their numbers are finite. -/
theorem Describes.row (h : Describes body p) (hfits : body.Fits) {row : Row Float}
    (hrow : row ∈ p.rows) :
    row.relation = .atMost ∧ (∀ c ∈ row.coefficients, c.isFinite = true) ∧
      row.bound.isFinite = true := by
  obtain ⟨coefficients, bounds, hrows, hbounds, hlength, hlength', heq⟩ := h.rows
  obtain ⟨i, hi, rfl⟩ := List.mem_iff_getElem.mp hrow
  have hc : i < coefficients.length := hlength ▸ hi
  have hb : i < bounds.length := hlength' ▸ hi
  have hrowFits : (Json.array (coefficients[i].map .number)).Fits := by
    cases hfits.part hrows with
    | array hitems => exact hitems _ (List.mem_map_of_mem (List.getElem_mem hc))
  rw [heq i _ _ _ (List.getElem?_eq_getElem hi) (List.getElem?_eq_getElem hc)
    (List.getElem?_eq_getElem hb)]
  exact ⟨rfl, isFinite_of_fits hrowFits, isFinite_of_fits (hfits.part hbounds) _
    (List.mem_map_of_mem (List.getElem_mem hb))⟩

/-- **A client's problem is accepted** if all rows have the right length and, in standard form, no
bound is negative. -/
theorem Describes.fault?_eq_none_iff (h : Describes body p) (hfits : body.Fits) {general : Bool} :
    p.fault? general = none ↔ ∀ row ∈ p.rows, row.coefficients.length = p.variableCount ∧
      (general = true ∨ ¬ row.bound < 0.0) := by
  have hobjective : ∀ c ∈ p.objective, Arithmetic.isFinite c = true := by
    obtain ⟨numbers, hpart, heq⟩ := h.objective
    rw [heq]
    exact isFinite_of_fits (hfits.part hpart)
  rw [Problem.fault?_eq_none_iff_isAccepted, and_iff_right hobjective]
  refine forall₂_congr fun row hrow => ?_
  obtain ⟨hrelation, hcoefficients, hbound⟩ := h.row hfits hrow
  have hfinite : (∀ c ∈ row.coefficients, Arithmetic.isFinite c = true) ∧
      Arithmetic.isFinite row.bound = true := ⟨hcoefficients, hbound⟩
  have hnegative : Arithmetic.lt row.bound Arithmetic.zero = false ↔ ¬ row.bound < 0.0 :=
    decide_eq_false_iff_not
  rw [Row.IsAccepted, and_iff_right hfinite, and_iff_right hrelation, hnegative]

/-! ### Blame -/

/-- **Who is to blame for the answer to a linear program**, and what is warned of. -/
structure Blames (solver : Solver Float) (body : Json) (answer : Response)
    (warnings : List Record) : Prop where
  /-- A problem that is solved is answered as such. -/
  solved_iff : answer.status = 200 ↔
    ∃ p solution, Describes body p ∧ (solver.solve p).result = .ok solution
  /-- The client is blamed for a body that cannot be read, and for a problem that is refused. -/
  refused_iff : answer.status = 400 ↔
    (∀ p, ¬ Describes body p) ∨ ∃ p, Describes body p ∧ p.fault? solver.phaseOne ≠ none
  /-- A problem is refused for a row of the wrong length, or in standard form for a bound. -/
  fault_iff : ∀ p, Describes body p → (p.fault? solver.phaseOne ≠ none ↔
    ∃ row ∈ p.rows, row.coefficients.length ≠ p.variableCount ∨
      solver.phaseOne = false ∧ row.bound < 0.0)
  /-- The service is to blame for an accepted problem that it did not solve. -/
  failed_iff : answer.status = 500 ↔ ∃ p error, Describes body p ∧
    p.fault? solver.phaseOne = none ∧ (solver.solve p).result = .error error
  /-- Then the outcome is told to the client, and warned of once. -/
  failed : ∀ p error, Describes body p → p.fault? solver.phaseOne = none →
    (solver.solve p).result = .error error → IsOutcome error ∧
      answer = refusal 500 error.message ∧
      warnings = [{ level := .warn
                    target := Event.requestTarget
                    message := "simplex request failed"
                    fields := [("error", .text error.message)] }]
  /-- Nothing else is warned of. -/
  silent : answer.status ≠ 500 → warnings = []

theorem Describes.fault?_ne_none_iff (h : Describes body p) (hfits : body.Fits) {general : Bool} :
    p.fault? general ≠ none ↔ ∃ row ∈ p.rows,
      row.coefficients.length ≠ p.variableCount ∨ general = false ∧ row.bound < 0.0 := by
  rw [ne_eq, h.fault?_eq_none_iff hfits]
  push Not
  simp only [Bool.not_eq_true, imp_iff_not_or, ne_eq]

section Blames

variable {answer : Response} {warnings : List Record}

/-- The client is blamed if no problem is described that is accepted. -/
theorem blames_of_refused (hfits : body.Fits)
    (h : ∀ p, Describes body p → p.fault? solver.phaseOne ≠ none) (hstatus : answer.status = 400) :
    Blames solver body answer [] where
  solved_iff := by
    refine iff_of_false (by omega) ?_
    rintro ⟨p, solution, hp, hresult⟩
    exact h p hp (Solver.fault?_eq_none_of_ok hresult)
  refused_iff := by
    refine iff_of_true hstatus ?_
    by_cases hp : ∃ p, Describes body p
    · obtain ⟨p, hp⟩ := hp
      exact Or.inr ⟨p, hp, h p hp⟩
    · exact Or.inl (not_exists.mp hp)
  fault_iff p hp := hp.fault?_ne_none_iff hfits
  failed_iff := by
    refine iff_of_false (by omega) ?_
    rintro ⟨p, error, hp, haccepted, -⟩
    exact h p hp haccepted
  failed p error hp haccepted := absurd haccepted (h p hp)
  silent _ := rfl

theorem blames_of_solved (hfits : body.Fits) (hp : Describes body p) {solution : Solution Float}
    (hresult : (solver.solve p).result = .ok solution) (hstatus : answer.status = 200) :
    Blames solver body answer [] where
  solved_iff := iff_of_true hstatus ⟨p, solution, hp, hresult⟩
  refused_iff := by
    refine iff_of_false (by omega) ?_
    rintro (hnone | ⟨q, hq, hfault⟩)
    · exact hnone p hp
    · obtain rfl := hp.unique hq
      exact hfault (Solver.fault?_eq_none_of_ok hresult)
  fault_iff p hp := hp.fault?_ne_none_iff hfits
  failed_iff := by
    refine iff_of_false (by omega) ?_
    rintro ⟨q, error, hq, -, herror⟩
    obtain rfl := hp.unique hq
    cases herror.symm.trans hresult
  failed q error hq _ herror := by
    obtain rfl := hp.unique hq
    cases herror.symm.trans hresult
  silent _ := rfl

/-- The service is to blame if an accepted problem has an outcome instead of a solution. -/
theorem blames_of_failed (hfits : body.Fits) (hp : Describes body p)
    (haccepted : p.fault? solver.phaseOne = none) {error : SolveError Float}
    (hresult : (solver.solve p).result = .error error) (houtcome : IsOutcome error)
    (hanswer : answer = refusal 500 error.message) :
    Blames solver body answer [(Event.requestFailed error.message).record] := by
  have hstatus : answer.status = 500 := congrArg Response.status hanswer
  exact
    { solved_iff := by
        refine iff_of_false (by omega) ?_
        rintro ⟨q, solution, hq, hok⟩
        obtain rfl := hp.unique hq
        cases hok.symm.trans hresult
      refused_iff := by
        refine iff_of_false (by omega) ?_
        rintro (hnone | ⟨q, hq, hfault⟩)
        · exact hnone p hp
        · obtain rfl := hp.unique hq
          exact hfault haccepted
      fault_iff := fun p hp => hp.fault?_ne_none_iff hfits
      failed_iff := iff_of_true hstatus ⟨p, error, hp, haccepted, hresult⟩
      failed := by
        intro q found hq _ herror
        obtain rfl := hp.unique hq
        obtain rfl := Except.error.inj (hresult.symm.trans herror)
        exact ⟨houtcome, hanswer, rfl⟩
      silent := fun hother => absurd hstatus hother }

/-- **The answer to a linear program blames the right side.** -/
theorem solve_blames (solver : Solver Float) (hfits : body.Fits) :
    Blames solver body (resultResponse ((solve solver body).result.map (·.toJson)))
      (failures (solve solver body).events) := by
  rcases solve_ends solver body with ⟨fault, hread, hsolve⟩ | ⟨p, hread, hends⟩
  · rw [hsolve]
    refine blames_of_refused hfits (fun p hp => ?_) rfl
    rw [describes_iff, hread] at hp
    cases hp
  · have hp := describes_iff.mpr hread
    rcases hends with ⟨fault, hfault, hsolve⟩ | ⟨solution, -, hresult, hsolve⟩ |
      ⟨error, haccepted, hresult, houtcome, hsolve⟩
    · rw [hsolve]
      refine blames_of_refused hfits (fun q hq => ?_) rfl
      obtain rfl := hp.unique hq
      rw [hfault]
      exact Option.some_ne_none fault
    · rw [hsolve, Solver.failures_solve]
      exact blames_of_solved hfits hp hresult rfl
    · rw [hsolve, failures_append, Solver.failures_solve]
      refine blames_of_failed hfits hp haccepted hresult houtcome ?_
      cases houtcome <;> exact resultResponse_error _

end Blames

/-- **A charge is never the service's fault**: it is priced, or the client is blamed for the weight,
or else for the class. -/
structure ChargesOrBlames (body : Json) (answer : Response) : Prop where
  /-- The service does not fail. -/
  status : answer.status = 200 ∨ answer.status = 400
  /-- A charge is told exactly if there are a weight and a class. -/
  priced_iff : answer.status = 200 ↔ HasWeight body ∧ HasClass body
  /-- A bad weight is told, whatever the class. -/
  weight : ¬ HasWeight body → answer = refusal 400 "Invalid luggage weight"
  /-- A bad class is told if the weight is good. -/
  travelClass : HasWeight body → ¬ HasClass body →
    answer = refusal 400 "Invalid travel class. Must be ECONOMY, BUSINESS, or FIRST"

theorem charge_blames (fares : Fare.Table Float) (hfits : body.Fits) :
    ChargesOrBlames body (resultResponse ((charge fares body).map (·.toJson))) := by
  rcases charge_cases fares hfits with
    ⟨hweight, hclass, quote, hok⟩ | ⟨hweight, herror⟩ | ⟨hweight, hclass, herror⟩
  · rw [hok]
    exact
      { status := Or.inl rfl
        priced_iff := iff_of_true rfl ⟨hweight, hclass⟩
        weight := fun hnone => absurd hweight hnone
        travelClass := fun _ hnone => absurd hclass hnone }
  · rw [herror]
    exact
      { status := Or.inr rfl
        priced_iff := iff_of_false (by decide) fun h => hweight h.1
        weight := fun _ => resultResponse_error (.unpriced .weight)
        travelClass := fun h => absurd h hweight }
  · rw [herror]
    exact
      { status := Or.inr rfl
        priced_iff := iff_of_false (by decide) fun h => hclass h.2
        weight := fun hnone => absurd hweight hnone
        travelClass := fun _ _ => resultResponse_error (.unpriced .travelClass) }

/-! ### Requests -/

theorem Request.readBody_fits {r : Request} (h : r.readBody = .ok body) : body.Fits := by
  unfold readBody at h
  split at h
  · cases h
  · split at h
    · obtain rfl := Except.ok.inj h
      exact .object (List.forall_mem_nil _)
    · split at h
      · next hparse =>
          obtain rfl := Except.ok.inj h
          exact Json.parseBytes_fits hparse
      · cases h

theorem Blames.length_warnings {answer : Response} {warnings : List Record}
    (h : Blames solver body answer warnings) :
    warnings.length = if answer.status = 500 then 1 else 0 := by
  by_cases hstatus : answer.status = 500
  · obtain ⟨p, error, hp, haccepted, hresult⟩ := h.failed_iff.mp hstatus
    obtain ⟨-, -, hwarnings⟩ := h.failed p error hp haccepted hresult
    rw [hwarnings, if_pos hstatus]
    rfl
  · rw [h.silent hstatus, if_neg hstatus]
    rfl

theorem ChargesOrBlames.status_ne {answer : Response} (h : ChargesOrBlames body answer) :
    answer.status ≠ 500 := by
  rcases h.status with hstatus | hstatus <;> omega

/-- The warnings of an endpoint, one for a fault of the service and none otherwise. -/
theorem length_failures_serve (service : Service) (r : Request) (e : Endpoint) :
    (failures (service.serve r e).events).length
      = if (service.serve r e).result.status = 500 then 1 else 0 := by
  cases e with
  | simplex =>
      unfold serve handle
      cases hread : r.readBody with
      | error fault => rfl
      | ok body => exact (solve_blames service.solver (Request.readBody_fits hread)).length_warnings
  | charge =>
      unfold serve handle
      cases hread : r.readBody with
      | error fault => rfl
      | ok body =>
          have hblames := charge_blames service.fares (Request.readBody_fits hread)
          exact (if_neg hblames.status_ne).symm
  | health =>
      unfold serve
      dsimp only
      split <;> rfl

theorem length_failures_respond (service : Service) (r : Request) :
    (failures (service.respond r).events).length
      = if (service.respond r).result.status = 500 then 1 else 0 := by
  have hroute : (failures (service.route r).events).length
      = if (service.route r).result.status = 500 then 1 else 0 := by
    unfold route
    cases Endpoint.ofPath? r.path with
    | none => rfl
    | some e =>
        dsimp only
        split
        · exact length_failures_serve service r e
        · rfl
  unfold respond
  split
  · rfl
  · dsimp only
    split
    · rw [Logged.events_followedBy, failures_append, List.length_append, hroute]
      rfl
    · exact hroute

/-- **Blame is assigned correctly**, for every body and under all settings: for linear programs, for
charges, and in the log of every request. -/
theorem result_blame (service : Service) (hfits : body.Fits) :
    Blames service.solver body (resultResponse (service.result body .simplex))
        (failures (solve service.solver body).events) ∧
      ChargesOrBlames body (resultResponse (service.result body .charge)) ∧
      ∀ r, (failures (service.respond r).events).length
        = if (service.respond r).result.status = 500 then 1 else 0 :=
  ⟨solve_blames service.solver hfits, charge_blames service.fares hfits,
    length_failures_respond service⟩

/-- A linear program without a bound for its second variable, with a weight of zero and a class that
there is not. -/
def runawayBody : Json :=
  .object [("objective", .array [.number (.integer 1), .number (.integer 1)]),
    ("constraints", .array [.array [.number (.integer 1), .number (.integer 0)]]),
    ("b", .array [.number (.integer 5)]), ("luggageWeight", .number (.integer 0)),
    ("travelClass", .string "VIP")]

/-- The service is to blame for the linear program, and the client for the weight. -/
theorem result_runaway_blame : runawayBody.Fits ∧
    resultResponse ((ofSettings .standard).result runawayBody .simplex)
      = refusal 500 "Problem is unbounded" ∧
    failures (solve .standard runawayBody).events
      = [{ level := .warn
           target := "skyfare_luggage::api"
           message := "simplex request failed"
           fields := [("error", .text "Problem is unbounded")] }] ∧
    resultResponse ((ofSettings .standard).result runawayBody .charge)
      = refusal 400 "Invalid luggage weight" := by
  have hfits : runawayBody.Fits := by
    have hnumbers (ks : List ℤ) (hks : ∀ k ∈ ks, 0 ≤ k ∧ k ≤ 5) :
        ∀ item ∈ ks.map fun k => Json.number (.integer k), item.Fits := by
      refine List.forall_mem_map.mpr fun k hk => .number ?_
      obtain ⟨hlow, hhigh⟩ := hks k hk
      exact ⟨by omega, by omega⟩
    refine .object ?_
    simp only [List.forall_mem_cons]
    refine ⟨.array (hnumbers [1, 1] (by decide)), .array ?_, .array (hnumbers [5] (by decide)),
      hnumbers [0] (by decide) _ (List.mem_singleton_self _), .string, List.forall_mem_nil _⟩
    exact List.forall_mem_singleton.mpr (.array (hnumbers [1, 0] (by decide)))
  obtain ⟨hsolving, hcharging, -⟩ := result_blame (ofSettings .standard) hfits
  have hp : Describes runawayBody ⟨[1, 1], true, [⟨"c1", [1, 0], .atMost, 5⟩]⟩ :=
    describes_iff.mpr rfl
  have haccepted : (⟨[1, 1], true, [⟨"c1", [1, 0], .atMost, 5⟩]⟩ : Problem Float).fault?
      (ofSettings .standard).solver.phaseOne = none := by
    decide +kernel
  have hresult : ((ofSettings .standard).solver.solve
      ⟨[1, 1], true, [⟨"c1", [1, 0], .atMost, 5⟩]⟩).result = .error (.unbounded 1) := by
    decide +kernel
  obtain ⟨-, hanswer, hwarnings⟩ := hsolving.failed _ _ hp haccepted hresult
  have hweight : ¬ HasWeight runawayBody := by
    rintro ⟨n, hpart, hpositive⟩
    have hzero : runawayBody.HasPart "luggageWeight" (.number (.integer 0)) :=
      Json.hasPart_iff.mpr ⟨by simp, rfl⟩
    obtain rfl := Json.number.inj (hpart.unique hzero)
    exact lt_irrefl 0 hpositive
  exact ⟨hfits, hanswer, hwarnings, hcharging.weight hweight⟩

end Service

end Baggage

import Baggage.Proofs.LinearProgram.Report
import Baggage.Service.Router

/-!
# Baggage.Proofs.Service.RequestLog

**The log of requests.** A request for a path under `/api` that is no question for options is
reported once: after all else that it brings about, and with the status of the response that the
client receives (`Service.respond_reports`). The outcome plays no part in this, since the report is
made where every outcome has already become a response.

That nothing else is worded like a report is seen from where records come from: all that the solver
reports comes from the solver (`Solver.isFrom_solve`), and a failed linear program is warned of in
other words. Requests are answered and logged one after the other (`Service.events_respondAll`), so
the reports of a sequence are those of its requests.
-/

namespace Baggage

open Log (Record)

/-- The reports of requests among some events. -/
def requestReports (events : List (Event Float)) : List Record :=
  (events.map Event.record).filter fun record => record.message = "api request"

theorem requestReports_append (before after : List (Event Float)) :
    requestReports (before ++ after) = requestReports before ++ requestReports after := by
  simp [requestReports]

theorem requestReports_eq_nil_iff {events : List (Event Float)} : requestReports events = [] ↔
    ∀ record ∈ events.map Event.record, record.message ≠ "api request" := by
  simp [requestReports]

/-- The solver reports no requests. -/
theorem Logged.IsFrom.requestReports {β : Type} {x : Logged Float β}
    (h : x.IsFrom Event.solverTarget) : requestReports x.events = [] :=
  requestReports_eq_nil_iff.mpr <| List.forall_mem_map.mpr fun event hevent =>
    (Event.message_of_solver (h event hevent)).2

namespace Service

/-! ### Reported requests -/

namespace Request

/-- Whether the target of a request is a path from the root, with or without a query behind it. -/
def Targets (r : Request) (path : String) : Prop :=
  path.toList.head? = some '/' ∧ (∀ c ∈ path.toList, c ≠ '?' ∧ c ≠ '#') ∧
    (r.target = path ∨ ∃ query, r.target = path ++ "?" ++ query)

/-- Whether a request is to be reported: it is no question for options, and its path begins with
`/api`. -/
def IsReported (r : Request) : Prop := r.method ≠ "OPTIONS" ∧ "/api".toList <+: r.path.toList

instance (r : Request) : Decidable r.IsReported := inferInstanceAs (Decidable (_ ∧ _))

/-- The report of a request that got a response. -/
def report (r : Request) (response : Response) : Record :=
  { level := .info
    target := Event.serviceTarget
    message := "api request"
    fields := [("method", .text r.method), ("path", .text r.path),
      ("status", .count response.status)] }

variable {r : Request}

/-- The path of a request is its target without the query. -/
theorem path_of_targets {path : String} (h : r.Targets path) : r.path = path := by
  obtain ⟨hroot, hpath, htarget⟩ := h
  have hends : ∀ c ∈ path.toList, (!isPathEnd c) = true := by
    intro c hc
    simp [isPathEnd, hpath c hc]
  -- whatever follows the path is no part of it
  obtain ⟨rest, htext, hrest⟩ : ∃ rest, r.target.toList = path.toList ++ rest ∧
      rest.takeWhile (fun c => !isPathEnd c) = [] := by
    rcases htarget with heq | ⟨query, heq⟩
    · exact ⟨[], by simp [heq], rfl⟩
    · exact ⟨'?' :: query.toList, by simp [heq], rfl⟩
  have hhead : r.target.toList.head? = some '/' := by
    rw [htext, List.head?_append, hroot]
    rfl
  unfold Request.path
  dsimp only
  rw [hhead, beq_self_eq_true, Bool.true_or, if_pos rfl, htext,
    List.takeWhile_append_of_pos hends, hrest, List.append_nil, String.ofList_toList]

theorem isReported_iff :
    r.IsReported ↔ (r.method == "OPTIONS") = false ∧ Service.isReported r.path = true := by
  rw [IsReported, Service.isReported, List.isPrefixOf_iff_prefix, beq_eq_false_iff_ne]

end Request

/-- **What the log and the client are told of a request.** -/
structure Reports (r : Request) (answer : Logged Float Response) : Prop where
  /-- The path that is reported is the target without the query. -/
  path : ∀ path, r.Targets path → r.path = path
  /-- What is to be reported is reported with the status of the response, once, and last of all. -/
  reported : r.IsReported → ∃ before,
    answer.events.map Event.record = before ++ [r.report answer.result] ∧
      ∀ other ∈ before, other.message ≠ "api request"
  /-- Nothing else is reported. -/
  unreported : ¬ r.IsReported →
    ∀ record ∈ answer.events.map Event.record, record.message ≠ "api request"
  /-- The outcomes that there are. -/
  status : answer.result.status ∈ [200, 400, 404, 405, 500]

/-! ### One request -/

variable (service : Service) (r : Request)

theorem requestReports_solve (solver : LinearProgram.Solver Float) (body : Json) :
    requestReports (solve solver body).events = [] := by
  unfold solve
  split
  · rfl
  · next p _ =>
      have hsolver := (LinearProgram.Solver.isFrom_solve solver p).requestReports
      rw [Logged.events_andThen, requestReports_append, hsolver, List.nil_append]
      split
      · rfl
      · split <;> rfl

theorem requestReports_handle {result : Json → Logged Float (Except Failure Json)}
    (h : ∀ body, requestReports (result body).events = []) :
    requestReports (handle r result).events = [] := by
  unfold handle
  split
  · rfl
  · exact h _

/-- Nothing is reported of a request before its response. -/
theorem requestReports_route : requestReports (service.route r).events = [] := by
  have hserve (e : Endpoint) : requestReports (service.serve r e).events = [] := by
    cases e with
    | simplex => exact requestReports_handle r (requestReports_solve service.solver)
    | charge => exact requestReports_handle r fun _ => rfl
    | health => rfl
  unfold route
  split
  · rfl
  · split
    · exact hserve _
    · rfl

theorem status_resultResponse (result : Except Failure Json) :
    (resultResponse result).status ∈ [200, 400, 500] := by
  cases result with
  | ok body => exact List.mem_cons_self
  | error failure =>
      rcases failure.status_eq with hstatus | hstatus
      · simp [resultResponse, jsonResponse, hstatus]
      · simp [resultResponse, jsonResponse, hstatus]

theorem status_handle (result : Json → Logged Float (Except Failure Json)) :
    (handle r result).result.status ∈ [200, 400, 500] := by
  unfold handle
  split
  · exact status_resultResponse _
  · exact status_resultResponse _

/-- The statuses that there are: of endpoints, of paths that lead nowhere, and of methods that an
endpoint does not have. -/
theorem status_route : (service.route r).result.status ∈ [200, 400, 404, 405, 500] := by
  have hserve (e : Endpoint) : (service.serve r e).result.status ∈ [200, 400, 500] := by
    cases e with
    | simplex => exact status_handle r _
    | charge => exact status_handle r _
    | health =>
        unfold serve
        dsimp only
        split <;> exact List.mem_cons_self
  unfold route
  split
  · simp [emptyResponse]
  · next e _ =>
      split
      · have hsubset : [200, 400, 500] ⊆ [200, 400, 404, 405, 500] := by decide
        exact hsubset (hserve e)
      · simp [emptyResponse]

/-- **A request is reported as it should be**, if at all. -/
theorem respond_reports : Reports r (service.respond r) where
  path _ h := Request.path_of_targets h
  reported h := by
    obtain ⟨hoptions, hpath⟩ := Request.isReported_iff.mp h
    refine ⟨(service.route r).events.map Event.record, ?_,
      requestReports_eq_nil_iff.mp (service.requestReports_route r)⟩
    rw [respond, hoptions, hpath]
    exact List.map_append
  unreported h := by
    refine requestReports_eq_nil_iff.mp ?_
    rw [respond]
    -- options are answered before anything is routed, so there are no events at all
    by_cases hoptions : (r.method == "OPTIONS") = true
    · rw [if_pos hoptions]
      rfl
    · have hpath : isReported r.path ≠ true := fun hpath =>
        h (Request.isReported_iff.mpr ⟨Bool.eq_false_of_not_eq_true hoptions, hpath⟩)
      rw [if_neg hoptions, if_neg hpath]
      exact service.requestReports_route r
  status := by
    rw [respond]
    split
    · exact List.mem_cons_self
    · dsimp only
      split <;> exact service.status_route r

/-- The reports of a request with its response: one or none. -/
theorem Reports.requestReports {r : Request} {answer : Logged Float Response}
    (h : Reports r answer) : requestReports answer.events
      = if r.IsReported then [r.report answer.result] else [] := by
  by_cases hreported : r.IsReported
  · obtain ⟨before, hevents, hbefore⟩ := h.reported hreported
    have hquiet : before.filter (fun record => record.message = "api request") = [] :=
      List.filter_eq_nil_iff.mpr fun record hrecord => by simp [hbefore record hrecord]
    rw [if_pos hreported, Baggage.requestReports, hevents, List.filter_append, hquiet]
    rfl
  · rw [if_neg hreported]
    exact requestReports_eq_nil_iff.mpr (h.unreported hreported)

/-! ### Requests one after the other -/

theorem result_respondAll (rs : List Request) :
    (service.respondAll rs).result = rs.map fun r => (service.respond r).result := by
  induction rs with
  | nil => rfl
  | cons r rest ih => exact congrArg _ ih

/-- The events of a sequence are those of its requests. -/
theorem events_respondAll (rs : List Request) :
    (service.respondAll rs).events = rs.flatMap fun r => (service.respond r).events := by
  induction rs with
  | nil => rfl
  | cons r rest ih => exact congrArg _ ih

/-- The reports of a sequence are those of its requests that are to be reported. -/
theorem requestReports_respondAll (rs : List Request) :
    requestReports (service.respondAll rs).events
      = (rs.filter fun r => r.IsReported).map fun r => r.report (service.respond r).result := by
  rw [events_respondAll]
  induction rs with
  | nil => rfl
  | cons r rest ih =>
      rw [List.flatMap_cons, requestReports_append, ih, (service.respond_reports r).requestReports]
      by_cases hreported : r.IsReported
      · rw [if_pos hreported, List.filter_cons_of_pos (by simpa using hreported)]
        rfl
      · rw [if_neg hreported, List.filter_cons_of_neg (by simpa using hreported)]
        rfl

/-- **Every request is reported exactly once**, or not at all, whatever became of it and of the
requests before it: the events and the responses of a sequence are those of its requests, and so are
the reports. -/
theorem respondAll_reports (rs : List Request) :
    (service.respondAll rs).result = rs.map (fun r => (service.respond r).result) ∧
    (service.respondAll rs).events = rs.flatMap (fun r => (service.respond r).events) ∧
    (∀ r ∈ rs, Reports r (service.respond r)) ∧
    requestReports (service.respondAll rs).events
      = (rs.filter fun r => r.IsReported).map fun r => r.report (service.respond r).result :=
  ⟨service.result_respondAll rs, service.events_respondAll rs,
    fun r _ => service.respond_reports r, service.requestReports_respondAll rs⟩

example : (requestReports ((ofSettings .standard).respondAll
    [⟨"GET", "/apix?page=1", [], .empty⟩, ⟨"OPTIONS", "/api/simplex", [], .empty⟩,
      ⟨"GET", "/health", [], .empty⟩, ⟨"GET", "/api/simplex", [], .empty⟩]).events).map
        (fun record => record.fields.map fun field => field.2.write)
      = [["GET", "/apix", "404"], ["GET", "/api/simplex", "405"]] := by
  decide +kernel

end Service

end Baggage

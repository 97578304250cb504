import Baggage.Report.Json
import Baggage.Service.Charge
import Baggage.Service.Message
import Baggage.Service.Simplex
import Baggage.Settings.Basic

/-!
# Baggage.Service.Router

The **service**: which path and method lead to which result, and how a result is answered. Every
response may be read by pages from anywhere. A question for the options of a path is answered on
every path, and is the only kind of request that `Service.respond` never reports; any other request
for a path under `/api` is reported once, after everything else that happened on the way.

Two things are left out, since they depend on the machine that runs the service and on nothing that
a client sends. How long an answer took stands beside its status in the report, and is no part of
`Event.served`. And linear programs are solved by workers apart from the one that answers: if such a
worker is lost, the client is told with status 500 that the service `Failed to solve linear
program`. Here a worker always comes back with its result.
-/

namespace Baggage

/-- What the service needs to know to answer. -/
structure Service where
  /-- The solver of linear programs. -/
  solver : LinearProgram.Solver Float
  /-- The allowances of the travel classes. -/
  fares : Fare.Table Float

namespace Service

/-- The service with the given settings. -/
def ofSettings (s : Settings Float) : Service := ⟨s.solver, s.fares⟩

/-- Something that the service answers. -/
inductive Endpoint where
  /-- Solving a linear program. -/
  | simplex
  /-- Pricing luggage. -/
  | charge
  /-- Telling that the service is alive. -/
  | health
  deriving DecidableEq, Repr

namespace Endpoint

/-- The path of an endpoint. -/
def path : Endpoint → String
  | simplex => "/api/simplex"
  | charge => "/api/calculate-luggage-charge"
  | health => "/health"

/-- The methods of an endpoint. -/
def methods : Endpoint → List String
  | simplex => ["POST"]
  | charge => ["POST"]
  | health => ["GET", "HEAD"]

/-- The endpoint with exactly this path. -/
def ofPath? (path : String) : Option Endpoint :=
  [simplex, charge, health].find? fun e => e.path == path

/-- The header that lists the methods. -/
def allow (e : Endpoint) : String × String := ("allow", ",".intercalate e.methods)

end Endpoint

/-! ### Responses -/

/-- The header that opens a response to pages from anywhere. -/
def anyOrigin : String × String := ("access-control-allow-origin", "*")

/-- The header of a JSON body. -/
def jsonType : String × String := ("content-type", "application/json")

/-- A response with a JSON body. -/
def jsonResponse (status : Nat) (body : Json) : Response :=
  ⟨status, [jsonType, anyOrigin], body.compact⟩

/-- A response without a body. -/
def emptyResponse (status : Nat) (headers : List (String × String)) : Response :=
  ⟨status, headers ++ [anyOrigin], ""⟩

/-- The response to a result or a failure. -/
def resultResponse : Except Failure Json → Response
  | .ok body => jsonResponse 200 body
  | .error failure => jsonResponse failure.status failure.toJson

/-- The version that the service reports. -/
def version : String := "0.1.0"

/-- What the service says of itself. -/
def healthJson : Json := .object [("status", .string "healthy"), ("version", .string version)]

/-- The response to a question for the options of a path. -/
def optionsResponse (path : String) : Response :=
  let allow := match Endpoint.ofPath? path with
    | some e => [e.allow]
    | none => []
  emptyResponse 200 (allow ++
    [("access-control-allow-methods", "*"), ("access-control-allow-headers", "*")])

/-! ### Answering -/

/-- The response to a request whose body is asked to be handled. -/
def handle (r : Request) (result : Json → Logged Float (Except Failure Json)) :
    Logged Float Response :=
  match r.readBody with
  | .error fault => .quiet (resultResponse (.error (.unreadable fault)))
  | .ok body => (result body).map resultResponse

/-- The response of an endpoint to a request with one of its methods. -/
def serve (service : Service) (r : Request) : Endpoint → Logged Float Response
  | .simplex => handle r fun body => (solve service.solver body).map (·.map (·.toJson))
  | .charge => handle r fun body => .quiet ((charge service.fares body).map (·.toJson))
  | .health =>
    let response := jsonResponse 200 healthJson
    .quiet (if r.method == "HEAD" then { response with body := "" } else response)

/-- The response to a request that is no question for options. -/
def route (service : Service) (r : Request) : Logged Float Response :=
  match Endpoint.ofPath? r.path with
  | none => .quiet (emptyResponse 404 [])
  | some e =>
    if e.methods.contains r.method then service.serve r e
    else .quiet (emptyResponse 405 [e.allow])

/-- Whether requests for a path are reported. -/
def isReported (path : String) : Bool := "/api".toList.isPrefixOf path.toList

/-- The response to a request. -/
def respond (service : Service) (r : Request) : Logged Float Response :=
  if r.method == "OPTIONS" then .quiet (optionsResponse r.path)
  else
    let answer := service.route r
    if isReported r.path then
      answer.followedBy (.served r.method r.path answer.result.status)
    else answer

/-- The responses to requests, one after the other. -/
def respondAll (service : Service) : List Request → Logged Float (List Response)
  | [] => .quiet []
  | r :: rest =>
    (service.respond r).andThen fun response =>
      (service.respondAll rest).map (response :: ·)

end Service

end Baggage

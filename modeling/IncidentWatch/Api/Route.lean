import IncidentWatch.Api.MediaType
import IncidentWatch.Api.Query
import IncidentWatch.Api.Response
import IncidentWatch.Engine.Detection

/-!
# The interface of the agent

The agent takes batches of events, lists incidents and tells its health and its
metrics. Each way of working reports how it went to the health of the
components: a batch that fails counts against the detector, and against the
store as well when the store failed.
-/

set_option autoImplicit false

namespace IncidentWatch.Api

open Program

/-- A request to the agent. -/
structure HttpRequest where
  method : String
  target : String
  contentType : Option String
  body : String

/-- What an address leads to. -/
inductive Route where
  | health
  | readiness
  | metrics
  | events
  | incidents
  deriving DecidableEq, Repr

namespace Route

/-- The addresses. -/
def named : List (String × Route) :=
  [("/healthz", .health), ("/readyz", .readiness), ("/metrics", .metrics),
    ("/v1/events", .events), ("/v1/incidents", .incidents)]

/-- Whether a method can be used. -/
def allows (r : Route) (method : String) : Bool :=
  if r = .events then method = "POST" else method = "GET" || method = "HEAD"

end Route

/-- The address of a target, and its query. -/
def splitTarget (target : String) : String × List Char :=
  let cs := target.toList.takeWhile (· ≠ '#')
  (String.ofList (cs.takeWhile (· ≠ '?')), (cs.dropWhile (· ≠ '?')).drop 1)

/-- Tells the health; it fails when some component is unhealthy. -/
def healthz : Program Response := do
  let registry ← request .health
  return .json (if registry.status = .unhealthy then 503 else 200) registry.response.encode

/-- Tells whether requests can be taken. -/
def readyz : Program Response := do
  let readiness := (← request .health).readiness
  return .json (if readiness.ready then 200 else 503) readiness.encode

/-- Handles a batch, and reports on the detector and the store. -/
def ingest (e : Engine) (events : List Event) (now : Instant) : Program Response := do
  match ← (e.handleBatch events now).run with
  | .ok outcome => do
    match outcome with
    | .skipped _ => pure ()
    | _ => request (.succeeded .repository)
    request (.succeeded .detector)
    return .json 200 (DetectResponse.ofOutcome outcome).encode
  | .error error => do
    log (.error "Failed to handle event batch"
      [("error", .str error.message), ("events", .int events.length)])
    let status ← match error with
      | .persistence _ => do
        request (.failed .repository error.message)
        pure 503
      | .query (.timedOut _) => pure 504
      | _ => pure 500
    request (.failed .detector error.message)
    return .error status error.message

/-- Lists incidents, and reports on the store. -/
def listIncidents (q : IncidentQuery) : Program Response := do
  match ← request (.list q.filter q.pagination) with
  | .ok page => do
    request (.succeeded .repository)
    return .json 200 (page.encode fun i => i.view.encode)
  | .error error => do
    log (.error "Failed to list incidents" [("error", .str error.message)])
    request (.failed .repository error.message)
    return .error 503 error.message

/-- Takes the events out of a body. -/
def readEvents (r : HttpRequest) : Except Response (List Event) :=
  if !(r.contentType.any isJsonType) then .error (.bare 415)
  else match Decode.textStart (Decode.list Event.decode) r.body with
    | .ok events => .ok events
    | .error .malformed => .error (.bare 400)
    | .error _ => .error (.bare 422)

/-- Answers a request for a route. -/
def serve (e : Engine) (r : HttpRequest) (query : List Char) (now : Instant) :
    Route → Program Response
  | .health => healthz
  | .readiness => readyz
  | .metrics => return { status := 200, body := .metrics }
  | .events =>
    match readEvents r with
    | .ok events => ingest e events now
    | .error response => return response
  | .incidents =>
    match IncidentQuery.ofPairs? (readPairs query) with
    | some q => listIncidents q
    | none => return .bare 400

/-- Answers a request. -/
def handle (e : Engine) (r : HttpRequest) (now : Instant) : Program Response := do
  let (address, query) := splitTarget r.target
  match Route.named.lookup address with
  | none => return .bare 404
  | some route =>
    if route.allows r.method then
      let response ← serve e r query now route
      return { response with isWithheld := r.method = "HEAD" }
    else return .bare 405

end IncidentWatch.Api

import IncidentWatch.Engine.Candidate
import IncidentWatch.Engine.Saving
import IncidentWatch.Settings.Basic

/-!
# Detection

A batch is a list of events that belong to one owner. Events of low severity and
events without a pod do not count. The owner of the first event that counts is
looked up, and those events that the rules recognise make a candidate, which is
scoped to the owner if that is a job or a failing deployment, and else to the pod
of the first event. A batch that leads to no candidate is skipped for a reason.
-/

set_option autoImplicit false

namespace IncidentWatch

/-- The rules and the settings that an engine works by, and its node. -/
structure Engine where
  classifier : Classifier
  settings : EngineSettings
  node : String

namespace Engine

open Program

/-- The events of a batch that are more than a notice. -/
def significant (events : List Event) : List Event :=
  events.filter (·.isSignificant)

/-- The events of a batch that count. -/
def counting (events : List Event) : List Event :=
  (significant events).filter (·.hasPod)

/-- The events that the rules recognise. -/
def classified (e : Engine) (events : List Event) : List ClassifiedEvent :=
  events.filterMap fun event => (e.classifier.classify event).map fun meaning => ⟨event, meaning⟩

/-- Skips a batch, and logs the pod of an event for it. -/
def skip (e : Engine) (reason : SkipReason) (event : Option Event) (detail : String) :
    Program BatchOutcome := do
  count (.batchesDropped reason) 1
  log (Journal.batchDropped e.node ((event.map (·.podName)).getD "")
    ((event.map (·.podNamespace)).getD "") reason.name detail)
  return .skipped reason

/-- The object that an incident is scoped to. -/
def scope (e : Engine) (owner : OwnerRef) (origin : Event) : Program InvolvedObject := do
  let pod : InvolvedObject := ⟨.pod, origin.podName, origin.podNamespace⟩
  match owner.kind with
  | .deployment =>
    match ← request (.rollout owner.namespaceName owner.name e.settings.queryLimit) with
    | .ok health => return if ← checked health.isFailing then owner.involvedObject else pod
    | .error error => do
      log (.warn "Deployment health unavailable, scoping incident to pod"
        [("deployment", .str owner.name), ("namespace", .str owner.namespaceName),
          ("error", .str error.message)])
      return pod
  | .job => return owner.involvedObject
  | _ => return pod

/-- The candidate of recognised events, with fresh ids. -/
def candidate (e : Engine) (recognized : List ClassifiedEvent) (owner : OwnerRef) (origin : Event)
    (now : Instant) : Program Incident := do
  let object ← e.scope owner origin
  let id ← request .freshId
  let ids ← recognized.mapM fun _ => request .freshId
  let built := Candidate.build id ids recognized owner object now
  log (.debug "Built candidate incident"
    [("incident_id", .str built.id), ("release", .str built.releaseName),
      ("namespace", .str built.releaseNamespace), ("kind", .str built.involvedObject.kind.name),
      ("events", .int built.events.length)])
  return built

/-- Handles one batch of events. -/
def handleBatch (e : Engine) (events : List Event) (now : Instant) : Work BatchOutcome := do
  count .batchesReceived 1
  if (significant events).isEmpty then
    e.skip .allLowSeverity events.head? ""
  else match counting events with
    | [] => e.skip .missingPod events.head? ""
    | first :: rest =>
      match ← request (.owner first.podRef e.settings.queryLimit) with
      | .error error => e.skip .ownerUnresolved (some first) error.message
      | .ok owner =>
        match e.classified (first :: rest) with
        | [] => e.skip .unclassified (some first) ""
        | recognized => do
          count .eventsClassified recognized.length
          let built ← e.candidate recognized owner first now
          return .ofSave (← Saving.save e.node e.settings.pageSize built owner now)

end Engine

end IncidentWatch

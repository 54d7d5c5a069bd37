import IncidentWatch.Engine.Program
import IncidentWatch.Instant.Printer

/-!
# The journal of the engine

What happens to incidents and batches is logged in entries of fixed shapes, which
name the node that the engine runs on. Incidents that open are worth a warning
when they are critical. Where notifications have no other transport they
are entries of the log as well.
-/

set_option autoImplicit false

namespace IncidentWatch.Journal

/-- The fields that tell an incident and its release. -/
def identity (node event : String) (i : Incident) : List (String × Json) :=
  [("event", .str event), ("node", .str node), ("incident_id", .str i.id),
    ("release", .str i.releaseName), ("namespace", .str i.releaseNamespace)]

/-- The fields that tell what an incident is scoped to. -/
def scope (i : Incident) : List (String × Json) :=
  [("kind", .str i.involvedObject.kind.name), ("object", .str i.involvedObject.name)]

def created (node : String) (i : Incident) : LogEntry :=
  let fields := identity node "incident_created" i ++ scope i
    ++ [("severity", .str i.severity.name), ("cause", .str (i.primaryCause.getD ""))]
  match i.severity with
  | .critical => .warn "Critical incident opened" fields
  | .normal => .info "Incident opened" fields

def merged (node : String) (i : Incident) (promoted : Bool) : LogEntry :=
  .info "Merged findings into active incident"
    (identity node "incident_merged" i ++ scope i
      ++ [("events", .int i.events.length), ("pods", .int i.distinctPods),
        ("promoted", .bool promoted)])

def resolved (node : String) (i : Incident) : LogEntry :=
  .info "Incident resolved"
    (identity node "incident_resolved" i
      ++ [("kind", .str i.involvedObject.kind.name), ("severity", .str i.severity.name),
        ("retries", .int i.resolvedRetryCount.toNat)])

/-- An alert that was delivered, or that failed with an error. -/
def alert (node : String) (i : Incident) (kind : String) (error : Option String) : LogEntry :=
  match error with
  | none =>
    .info "Notification delivered"
      (identity node "alert_sent" i
        ++ [("alert_type", .str kind), ("severity", .str i.severity.name)])
  | some text =>
    .warn "Notification failed, will retry on next trigger"
      (identity node "alert_failed" i ++ [("alert_type", .str kind), ("error", .str text)])

def batchDropped (node pod namespaceName reason detail : String) : LogEntry :=
  .warn "Dropped event batch"
    [("event", .str "batch_dropped"), ("node", .str node), ("pod_name", .str pod),
      ("namespace", .str namespaceName), ("reason", .str reason), ("detail", .str detail)]

def startup (node engineVersion clusterVersion : String) : LogEntry :=
  .info "Incident engine started"
    [("event", .str "engine_started"), ("node", .str node),
      ("engine_version", .str engineVersion), ("cluster_version", .str clusterVersion)]

def shutdown (node reason : String) : LogEntry :=
  .info "Incident engine shutting down"
    [("event", .str "engine_shutdown"), ("node", .str node), ("reason", .str reason)]

/-- A notification as a notifier without a transport writes it to the log. -/
def notification (kind : AlertKind) (v : IncidentView) : LogEntry :=
  let identity := [("incident_id", Json.str v.id), ("release", .str v.releaseName),
    ("namespace", .str v.releaseNamespace)]
  match kind with
  | .opened =>
    let fields := ("notification", Json.str "incident") :: identity
      ++ [("kind", .str v.kind.name), ("object", .str v.objectName),
        ("cause", .str v.primaryCause), ("events", .int v.details.length)]
    match v.severity with
    | .critical => .warn ("Critical incident in release " ++ v.releaseName) fields
    | .normal => .info ("Incident in release " ++ v.releaseName) fields
  | .resolved =>
    let time := match v.resolvedTime with
      | some t => "Some(" ++ t.render ++ ")"
      | none => "None"
    .info ("Incident in release " ++ v.releaseName ++ " resolved")
      (("notification", .str "resolved") :: identity
        ++ [("cause", .str v.primaryCause), ("resolved_time", .str time)])

/-- The node that an engine runs on when nobody names it. -/
def unknownNode : String := "unknown"

end IncidentWatch.Journal

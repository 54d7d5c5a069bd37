import IncidentWatch.Incident.View
import IncidentWatch.Event.Codec

/-!
# Incidents in JSON

Incidents and their occurrences spell their fields in snake case, views in camel
case. A view leaves out the time of resolution while there is none.
-/

set_option autoImplicit false

namespace IncidentWatch

open Decode

namespace Severity

def named : List (String × Severity) :=
  [("critical", .critical), ("normal", .normal)]

def encode (s : Severity) : Json := .str s.name

def decode : Decoder Severity := constant named

end Severity

namespace Status

def named : List (String × Status) :=
  [("active", .active), ("resolved", .resolved)]

def encode (s : Status) : Json := .str s.name

def decode : Decoder Status := constant named

end Status

namespace IncidentEvent

def encode (e : IncidentEvent) : Json :=
  .object [("id", .str e.id), ("incident_id", .str e.incidentId), ("pod_name", .str e.podName),
    ("pod_namespace", .str e.podNamespace), ("summary", .str e.summary),
    ("detail", .str e.detail), ("is_primary_cause", .bool e.isPrimaryCause),
    ("last_seen", e.lastSeen.encode), ("helm_revision", .int e.helmRevision.toInt)]

def fields : Fields IncidentEvent :=
  ((Fields.none IncidentEvent.mk).required "id" string
    |>.required "incident_id" string
    |>.required "pod_name" string
    |>.required "pod_namespace" string
    |>.required "summary" string
    |>.required "detail" string
    |>.required "is_primary_cause" bool
    |>.required "last_seen" instant
    |>.required "helm_revision" int64)

def decode : Decoder IncidentEvent := fields.record "IncidentEvent"

end IncidentEvent

namespace Incident

def encode (i : Incident) : Json :=
  .object [("id", .str i.id), ("release_name", .str i.releaseName),
    ("release_namespace", .str i.releaseNamespace), ("chart_name", .str i.chartName),
    ("involved_object", i.involvedObject.encode), ("severity", i.severity.encode),
    ("status", i.status.encode), ("created_at", i.createdAt.encode),
    ("last_seen", i.lastSeen.encode), ("last_alerted", .ofOption Instant.encode i.lastAlerted),
    ("resolved_time", .ofOption Instant.encode i.resolvedTime),
    ("resolved_retry_count", .int i.resolvedRetryCount.toNat),
    ("events", .arr (i.events.map IncidentEvent.encode))]

def fields : Fields Incident :=
  ((Fields.none Incident.mk).required "id" string
    |>.required "release_name" string
    |>.required "release_namespace" string
    |>.required "chart_name" string
    |>.required "involved_object" InvolvedObject.decode
    |>.required "severity" Severity.decode
    |>.required "status" Status.decode
    |>.required "created_at" instant
    |>.required "last_seen" instant
    |>.nullable "last_alerted" instant
    |>.nullable "resolved_time" instant
    |>.required "resolved_retry_count" uint32
    |>.required "events" (list IncidentEvent.decode))

def decode : Decoder Incident := fields.record "Incident"

end Incident

namespace IncidentDetail

def encode (d : IncidentDetail) : Json :=
  .object [("pod", .str d.pod), ("summary", .str d.summary), ("detail", .str d.detail),
    ("primary", .bool d.primary)]

def fields : Fields IncidentDetail :=
  ((Fields.none IncidentDetail.mk).required "pod" string
    |>.required "summary" string
    |>.required "detail" string
    |>.required "primary" bool)

def decode : Decoder IncidentDetail := fields.record "IncidentDetail"

end IncidentDetail

namespace IncidentView

def encode (v : IncidentView) : Json :=
  .object ([("id", .str v.id), ("releaseName", .str v.releaseName),
    ("releaseNamespace", .str v.releaseNamespace), ("chartName", .str v.chartName),
    ("kind", v.kind.encode), ("objectName", .str v.objectName),
    ("objectNamespace", .str v.objectNamespace), ("severity", v.severity.encode),
    ("status", v.status.encode), ("primaryCause", .str v.primaryCause),
    ("details", .arr (v.details.map IncidentDetail.encode)), ("lastSeen", v.lastSeen.encode)]
    ++ (v.resolvedTime.map fun t => ("resolvedTime", t.encode)).toList)

def fields : Fields IncidentView :=
  ((Fields.none IncidentView.mk).required "id" string
    |>.required "releaseName" string
    |>.required "releaseNamespace" string
    |>.required "chartName" string
    |>.required "kind" ObjectKind.decode
    |>.required "objectName" string
    |>.required "objectNamespace" string
    |>.required "severity" Severity.decode
    |>.required "status" Status.decode
    |>.required "primaryCause" string
    |>.required "details" (list IncidentDetail.decode)
    |>.required "lastSeen" instant
    |>.nullable "resolvedTime" instant)

def decode : Decoder IncidentView := fields.record "IncidentView"

end IncidentView

end IncidentWatch

import IncidentWatch.Incident.Basic

/-!
# What is shown of an incident

Notifications and listings show an incident as a flat record with a line for each
occurrence.
-/

set_option autoImplicit false

namespace IncidentWatch

/-- The line of one occurrence. -/
structure IncidentDetail where
  pod : String
  summary : String
  detail : String
  primary : Bool
  deriving DecidableEq, Repr

/-- What is shown of an incident. -/
structure IncidentView where
  id : String
  releaseName : String
  releaseNamespace : String
  chartName : String
  kind : ObjectKind
  objectName : String
  objectNamespace : String
  severity : Severity
  status : Status
  primaryCause : String
  details : List IncidentDetail
  lastSeen : Instant
  resolvedTime : Option Instant
  deriving DecidableEq

def IncidentEvent.line (e : IncidentEvent) : IncidentDetail :=
  ⟨e.podNamespace ++ "/" ++ e.podName, e.summary, e.detail, e.isPrimaryCause⟩

def Incident.view (i : Incident) : IncidentView where
  id := i.id
  releaseName := i.releaseName
  releaseNamespace := i.releaseNamespace
  chartName := i.chartName
  kind := i.involvedObject.kind
  objectName := i.involvedObject.name
  objectNamespace := i.involvedObject.namespaceName
  severity := i.severity
  status := i.status
  primaryCause := i.primaryCause.getD ""
  details := i.events.map IncidentEvent.line
  lastSeen := i.lastSeen
  resolvedTime := i.resolvedTime

end IncidentWatch

import IncidentWatch.Event.Basic

/-!
# Incidents

An incident is one problem of a release, with the classified occurrences that
belong to it. Occurrences are told apart by their key: the pod, the summary and
whether the occurrence is a primary cause. Incidents of one release are kept
together under the release's name and namespace.
-/

set_option autoImplicit false

namespace IncidentWatch

/-- How severe an incident is. -/
inductive Severity where
  | critical
  | normal
  deriving DecidableEq, Repr

def Severity.name : Severity → String
  | .critical => "critical"
  | .normal => "normal"

/-- Where an incident is in its life. -/
inductive Status where
  | active
  | resolved
  deriving DecidableEq, Repr

def Status.name : Status → String
  | .active => "active"
  | .resolved => "resolved"

/-- The name and the namespace that incidents are grouped under. -/
structure ReleaseKey where
  name : String
  namespaceName : String
  deriving DecidableEq, Repr

/-- A release as messages name it. -/
def ReleaseKey.title (k : ReleaseKey) : String :=
  k.namespaceName ++ "/" ++ k.name

/-- What tells the occurrences of an incident apart. -/
structure EventKey where
  podName : String
  podNamespace : String
  isPrimaryCause : Bool
  summary : String
  deriving DecidableEq, Repr

/-- One classified occurrence of an incident. -/
structure IncidentEvent where
  id : String
  incidentId : String
  podName : String
  podNamespace : String
  summary : String
  detail : String
  isPrimaryCause : Bool
  lastSeen : Instant
  helmRevision : Int64
  deriving DecidableEq

namespace IncidentEvent

def key (e : IncidentEvent) : EventKey :=
  ⟨e.podName, e.podNamespace, e.isPrimaryCause, e.summary⟩

/-- An occurrence with what a later one of the same key reports. -/
def refresh (e later : IncidentEvent) : IncidentEvent :=
  { e with lastSeen := later.lastSeen, detail := later.detail }

end IncidentEvent

/-- One problem of a release. -/
structure Incident where
  id : String
  releaseName : String
  releaseNamespace : String
  chartName : String
  involvedObject : InvolvedObject
  severity : Severity
  status : Status
  createdAt : Instant
  lastSeen : Instant
  lastAlerted : Option Instant
  resolvedTime : Option Instant
  resolvedRetryCount : UInt32
  events : List IncidentEvent
  deriving DecidableEq

namespace Incident

def releaseKey (i : Incident) : ReleaseKey :=
  ⟨i.releaseName, i.releaseNamespace⟩

/-- The summary of the first primary cause. -/
def primaryCause (i : Incident) : Option String :=
  (i.events.find? (·.isPrimaryCause)).map (·.summary)

/-- Whether some primary cause has a summary. -/
def hasPrimaryCause (i : Incident) (summary : String) : Bool :=
  i.events.any fun e => e.isPrimaryCause && e.summary = summary

/-- The pods that the occurrences name, each once. -/
def pods (i : Incident) : List (String × String) :=
  (i.events.map fun e => (e.podNamespace, e.podName)).eraseDups

/-- How many pods the occurrences name. -/
def distinctPods (i : Incident) : Nat :=
  i.pods.length

def isActive (i : Incident) : Bool :=
  i.status = .active

@[simp] theorem isActive_iff {i : Incident} : i.isActive = true ↔ i.status = .active := by
  simp [isActive]

end Incident

end IncidentWatch

import IncidentWatch.Instant.Basic
import IncidentWatch.Owner.Basic

/-!
# Events

An event is one signal of the cluster about a pod, already brought into a common
form: where it was seen, for what reason, with what message and how severe.
-/

set_option autoImplicit false

namespace IncidentWatch

/-- How severe an event is. -/
inductive Bucket where
  | critical
  | high
  | low
  deriving DecidableEq, Repr

/-- Where an event was seen: in the status of the pod's containers, or as an event object. -/
inductive EventSource where
  | pod
  | event
  deriving DecidableEq, Repr

/-- One signal about a pod. -/
structure Event where
  podName : String
  podNamespace : String
  source : EventSource
  reason : String
  message : String
  exitCode : Option Int32
  severity : Bucket
  timestamp : Instant
  owner : Option OwnerHint
  chartName : Option String
  releaseName : Option String
  deriving DecidableEq

namespace Event

/-- The pod of an event. -/
def podRef (e : Event) : PodRef :=
  ⟨e.podName, e.podNamespace, e.owner⟩

/-- Whether an event names its pod in full. -/
def hasPod (e : Event) : Bool :=
  e.podName ≠ "" && e.podNamespace ≠ ""

/-- Whether an event counts for more than a notice. -/
def isSignificant (e : Event) : Bool :=
  e.severity ≠ .low

/-- The pod of an event as messages name it. -/
def podTitle (e : Event) : String :=
  e.podNamespace ++ "/" ++ e.podName

end Event

end IncidentWatch

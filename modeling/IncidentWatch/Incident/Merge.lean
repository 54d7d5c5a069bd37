import IncidentWatch.Incident.Basic

/-!
# Merging incidents

A candidate is folded into a target occurrence by occurrence: one whose key is
there already refreshes the occurrence of that key in its place, any other is
appended and belongs to the target from then on. Once the occurrences name more
than one pod, the target is scoped to the owner of the pods.
-/

set_option autoImplicit false

namespace IncidentWatch

/-- Takes an occurrence into a list: the first one of its key is refreshed, or it is appended. -/
def IncidentEvent.recordIn (later : IncidentEvent) : List IncidentEvent → List IncidentEvent
  | [] => [later]
  | e :: rest =>
    if e.key = later.key then e.refresh later :: rest else e :: later.recordIn rest

namespace Incident

/-- The target's occurrences with those of a candidate. -/
def absorb (target : Incident) (incoming : List IncidentEvent) : List IncidentEvent :=
  incoming.foldl (fun events e => { e with incidentId := target.id }.recordIn events) target.events

/-- The target with a candidate folded in, and whether its scope has changed. -/
def merge (target : Incident) (incoming : List IncidentEvent) (owner : OwnerRef) (now : Instant) :
    Incident × Bool :=
  let merged := { target with lastSeen := now, events := target.absorb incoming }
  if merged.distinctPods ≤ 1 then (merged, false)
  else
    let scope := owner.involvedObject
    ({ merged with involvedObject := scope }, merged.involvedObject ≠ scope)

end Incident

end IncidentWatch

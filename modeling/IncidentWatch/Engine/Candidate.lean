import IncidentWatch.Incident.Merge
import IncidentWatch.Rule.Book

/-!
# Candidates

The classified events of a batch make a candidate, a new incident with an
occurrence for each of them; occurrences of one key are one. The release is the
owner's, or else the one that the first event names, or else stands under the
owner's name.
-/

set_option autoImplicit false

namespace IncidentWatch

/-- An event together with what it means. -/
structure ClassifiedEvent where
  event : Event
  meaning : Classification

namespace Candidate

/-- A candidate is critical when one of its events is. -/
def severity (classified : List ClassifiedEvent) : Severity :=
  if classified.any (·.event.severity = .critical) then .critical else .normal

/-- The name that the incidents of an owner are filed under. -/
def releaseName (owner : OwnerRef) (origin : Option Event) : String :=
  if owner.releaseName ≠ "" then owner.releaseName
  else ((origin.bind (·.releaseName)).filter (· ≠ "")).getD owner.name

/-- The chart that an owner was installed from. -/
def chartName (owner : OwnerRef) (origin : Option Event) : String :=
  if owner.chartName ≠ "" then owner.chartName
  else (origin.bind (·.chartName)).getD ""

/-- The occurrence of a classified event. -/
def occurrence (incidentId : String) (owner : OwnerRef) (id : String) (c : ClassifiedEvent) :
    IncidentEvent where
  id := id
  incidentId := incidentId
  podName := c.event.podName
  podNamespace := c.event.podNamespace
  summary := c.meaning.summary
  detail := c.meaning.detail
  isPrimaryCause := c.meaning.primary
  lastSeen := c.event.timestamp
  helmRevision := owner.helmRevision

/-- The occurrences of classified events, with an id for each; of one key there is one. -/
def occurrences (incidentId : String) (owner : OwnerRef) (ids : List String)
    (classified : List ClassifiedEvent) : List IncidentEvent :=
  (ids.zip classified).foldl
    (fun events (id, c) => (occurrence incidentId owner id c).recordIn events) []

/-- The candidate of classified events. -/
def build (id : String) (ids : List String) (classified : List ClassifiedEvent) (owner : OwnerRef)
    (scope : InvolvedObject) (now : Instant) : Incident :=
  let origin := classified.head?.map (·.event)
  { id
    releaseName := releaseName owner origin
    releaseNamespace := owner.namespaceName
    chartName := chartName owner origin
    involvedObject := scope
    severity := severity classified
    status := .active
    createdAt := now
    lastSeen := now
    lastAlerted := none
    resolvedTime := none
    resolvedRetryCount := 0
    events := occurrences id owner ids classified }

end Candidate

end IncidentWatch

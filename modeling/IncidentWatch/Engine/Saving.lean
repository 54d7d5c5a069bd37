import IncidentWatch.Engine.Journal
import IncidentWatch.Incident.Merge

/-!
# Saving candidates

A candidate is merged into the earliest active incident of its release that has
its cause among the primary causes, or else created. Looking for that incident
and writing are done under the lock of the release.
-/

set_option autoImplicit false

namespace IncidentWatch.Saving

open Program

/-- The cause that a candidate is filed under. -/
def cause (candidate : Incident) : String :=
  candidate.primaryCause.getD ""

/-- The incident that a candidate is merged into. -/
def target? (active : List Incident) (candidate : Incident) : Option Incident :=
  active.find? (·.hasPrimaryCause (cause candidate))

/-- Creates the candidate. -/
def create (node : String) (candidate : Incident) : Work SaveOutcome := do
  Work.create candidate
  count .incidentsCreated 1
  log (Journal.created node candidate)
  return .created candidate.id

/-- Merges the candidate into a target. -/
def mergeInto (node : String) (target candidate : Incident) (owner : OwnerRef) (now : Instant) :
    Work SaveOutcome := do
  log (.debug "Found merge target"
    [("incident_id", .str target.id), ("release", .str target.releaseName),
      ("cause", .str (cause candidate))])
  let (merged, promoted) := target.merge candidate.events owner now
  Work.update merged
  count .incidentsMerged 1
  log (Journal.merged node merged promoted)
  return .merged merged.id promoted

/-- Saves a candidate. -/
def save (node : String) (pageSize : UInt64) (candidate : Incident) (owner : OwnerRef)
    (now : Instant) : Work SaveOutcome :=
  Work.underLock candidate.releaseKey do
    let active ← Work.listAll (.activeFor candidate.releaseKey) pageSize
    match target? active candidate with
    | none => create node candidate
    | some target => mergeInto node target candidate owner now

end IncidentWatch.Saving

import IncidentWatch.Engine.Alerting

/-!
# Sweeps

A sweep looks at every active incident again. An incident that is not a critical
one of a deployment is settled once it has been quiet for long enough. For a
critical incident of a deployment the deployment itself is asked, after a shorter
time of quiet: it has to be found healthy several sweeps in a row, and a failure
starts the count anew. If it cannot be asked, the incident is left alone, or
settled if it has been quiet for the longer time.

Each incident is read again, judged and written under the lock of its release;
alerts go out after the lock is given back.
-/

set_option autoImplicit false

namespace IncidentWatch.Engine

open Program

/-- What a sweep makes of an incident. -/
inductive Verdict where
  | resolved
  | unresolved
  | skipped
  deriving DecidableEq, Repr

/-- Whether the health of a deployment decides about an incident. -/
def needsProbe (i : Incident) : Bool :=
  i.involvedObject.kind = .deployment && i.severity = .critical

theorem needsProbe_iff {i : Incident} :
    needsProbe i = true ↔ i.involvedObject.kind = .deployment ∧ i.severity = .critical := by
  simp [needsProbe]

/-- The fields that tell an incident and its deployment, with an error. -/
def probeFields (i : Incident) (error : QueryError) : List (String × Json) :=
  [("incident_id", .str i.id), ("deployment", .str i.involvedObject.name),
    ("namespace", .str i.involvedObject.namespaceName), ("error", .str error.message)]

/-- Judges an incident by the answer about its deployment, and keeps the count of healthy ones. -/
def judgeHealth (e : Engine) (i : Incident) (health : RolloutHealth) :
    Work (Incident × Verdict) := do
  if ← Work.checked health.isFailing then
    let failing := { i with resolvedRetryCount := 0 }
    Work.update failing
    return (failing, .unresolved)
  else
    let retries ← Work.checked (Word.uint32 .addOverflow (i.resolvedRetryCount.toNat + 1))
    let healthy := { i with resolvedRetryCount := retries }
    Work.update healthy
    log (.debug "Deployment healthy"
      [("incident_id", .str healthy.id), ("retry_count", .int retries.toNat),
        ("threshold", .int e.settings.retryThreshold.toNat)])
    return (healthy, if e.settings.retryThreshold ≤ retries then .resolved else .unresolved)

/-- Judges an incident whose deployment cannot be asked. -/
def judgeUnreadable (i : Incident) (settled : Bool) (error : QueryError) :
    Program (Incident × Verdict) := do
  if settled then
    log (.warn "Deployment health unavailable past the settle period, resolving"
      (probeFields i error))
    return (i, .resolved)
  else
    log (.warn "Deployment health unavailable, skipping incident this sweep" (probeFields i error))
    return (i, .skipped)

/-- Judges an active incident; the incident as it is stored then, and the verdict. -/
def judge (e : Engine) (i : Incident) (now : Instant) : Work (Incident × Verdict) := do
  let settledAt ← Work.checked (i.lastSeen.add e.settings.settleAfter)
  let settled : Bool := settledAt ≤ now
  if needsProbe i then
    let probedFrom ← Work.checked (i.lastSeen.add e.settings.bufferWindow)
    if now < probedFrom then return (i, .unresolved)
    else
      match ← request (.rollout i.involvedObject.namespaceName i.involvedObject.name
          e.settings.queryLimit) with
      | .ok health => e.judgeHealth i health
      | .error error => judgeUnreadable i settled error
  else return (i, if settled then .resolved else .unresolved)

/-- Stores an incident as resolved. -/
def resolve (e : Engine) (i : Incident) (now : Instant) : Work Incident := do
  let resolved := { i with status := .resolved, resolvedTime := some now }
  Work.update resolved
  count (.incidentsResolved resolved.involvedObject.kind) 1
  log (Journal.resolved e.node resolved)
  return resolved

/-- Reads an incident again under the lock of its release, judges it and resolves it; nothing if
it is no longer there or no longer active. -/
def examine (e : Engine) (listed : Incident) (now : Instant) :
    Work (Option (Incident × Verdict)) :=
  Work.underLock listed.releaseKey do
    match ← Work.read? listed.id with
    | none => return none
    | some i =>
      if i.isActive then
        let (judged, verdict) ← e.judge i now
        if verdict = .resolved then return some (← e.resolve judged now, verdict)
        else return some (judged, verdict)
      else return none

/-- Counts the end of an alert; a failed delivery does not end the sweep. -/
def countAlert (report : SweepReport) (result : Except EngineError Bool) : Work SweepReport :=
  match result with
  | .ok true => return { report with alertsSent := report.alertsSent + 1 }
  | .ok false => return report
  | .error (.delivery _) => return { report with alertFailures := report.alertFailures + 1 }
  | .error error => throw error

/-- Goes through one listed incident. -/
def visit (e : Engine) (now : Instant) (report : SweepReport) (listed : Incident) :
    Work SweepReport := do
  match ← e.examine listed now with
  | none => return { report with skipped := report.skipped + 1 }
  | some (_, .skipped) => return { report with skipped := report.skipped + 1 }
  | some (i, .unresolved) =>
    let (_, result) ← e.alertOpen i now
    countAlert report result
  | some (i, .resolved) =>
    let (_, result) ← e.alertResolved i now
    countAlert { report with resolved := report.resolved + 1 } result

/-- Sweeps over all active incidents. -/
def sweep (e : Engine) (now : Instant) : Work SweepReport := do
  let active ← Work.listAll .active e.settings.pageSize
  let report ← active.foldlM (e.visit now) { examined := active.length }
  request .pruneLocks
  let left ← Work.checked
    (Word.uint64 .subtractOverflow ((report.examined : Int) - report.resolved))
  request (.measure (.set .activeIncidents left.toNat))
  count .sweepLatency 1
  return report

end IncidentWatch.Engine

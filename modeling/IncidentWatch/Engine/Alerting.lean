import IncidentWatch.Engine.Detection

/-!
# Alerts

An open incident is announced when it has never been announced, and again each
time the whole hours since the last announcement reach the number set for its
severity. Only critical incidents are announced when they are resolved.

The notifier works without a lock. When it has delivered, the time is marked on
the stored incident under the lock of the release, so nothing that was merged in
the meantime is lost.
-/

set_option autoImplicit false

namespace IncidentWatch.Engine

open Program

/-- Whether an open incident is due for an announcement. -/
def isAlertDue (e : Engine) (i : Incident) (now : Instant) : Bool :=
  match i.lastAlerted with
  | none => true
  | some last => e.settings.realertHours i.severity ≤ now.hoursSince last

/-- The stored incident marked as announced, or, where there is none, the given one. -/
def storeMark (i : Incident) (now : Instant) : Work Incident :=
  Work.underLock i.releaseKey do
    match ← Work.read? i.id with
    | some stored => do
      let marked := { stored with lastAlerted := some now }
      Work.update marked
      return marked
    | none => return { i with lastAlerted := some now }

/-- Marks an incident as announced; what is known of it then, and whether the mark was stored. -/
def markAlerted (e : Engine) (i : Incident) (kind : AlertKind) (now : Instant) :
    Program (Incident × Except EngineError Unit) := do
  match ← (storeMark i now).run with
  | .ok marked => do
    count (.alertsSent kind) 1
    log (Journal.alert e.node marked kind.name none)
    return (marked, .ok ())
  | .error error => return ({ i with lastAlerted := some now }, .error error)

/-- Announces an incident; what is known of it then, and whether it was announced and marked. -/
def announce (e : Engine) (i : Incident) (kind : AlertKind) (now : Instant) :
    Program (Incident × Except EngineError Unit) := do
  match ← request (.deliver kind i.view) with
  | .ok () => e.markAlerted i kind now
  | .error text => do
    count .alertFailures 1
    log (Journal.alert e.node i kind.name (some text))
    return (i, .error (.delivery text))

/-- Announces an open incident if it is due, and says whether it did. -/
def alertOpen (e : Engine) (i : Incident) (now : Instant) :
    Program (Incident × Except EngineError Bool) := do
  if e.isAlertDue i now then
    let (left, result) ← e.announce i .opened now
    return (left, result.map fun _ => true)
  else return (i, .ok false)

/-- Announces a resolved incident if it is critical, and says whether it did. -/
def alertResolved (e : Engine) (i : Incident) (now : Instant) :
    Program (Incident × Except EngineError Bool) := do
  if i.severity = .critical then
    let (left, result) ← e.announce i .resolved now
    return (left, result.map fun _ => true)
  else return (i, .ok false)

end IncidentWatch.Engine

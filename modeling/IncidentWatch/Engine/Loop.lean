import IncidentWatch.Engine.Sweep

/-!
# The loop of sweeps

Sweeps are repeated at a fixed interval from the start on, each with a limit of
time. The loop cannot start with an interval of nothing. How a sweep ends, in
time or not, is logged and reported to the health of the components: a sweep that
was cut off counts against the resolver, one that failed against the store as
well. The rhythm is that of the agent's settings.
-/

set_option autoImplicit false

namespace IncidentWatch.Engine

open Program

/-- How a sweep of the loop ended. -/
inductive SweepEnd where
  | finished (report : SweepReport)
  | failed (error : EngineError)
  | cutOff

/-- The interval and the limit of a loop, in milliseconds. -/
structure Rhythm where
  interval : Nat
  limit : Nat
  deriving DecidableEq, Repr

/-- The rhythm that is set, in whole seconds. -/
def Rhythm.ofSettings (s : AgentSettings) : Rhythm :=
  ⟨s.resolveInterval.toNat * 1000, s.sweepLimit.toNat * 1000⟩

/-- What is logged when the loop starts. -/
def loopStarting (r : Rhythm) : LogEntry :=
  .info "Starting resolver loop"
    [("interval_secs", .int (r.interval / 1000)), ("timeout_secs", .int (r.limit / 1000))]

/-- What is logged when the loop ends. -/
def loopEnding : LogEntry :=
  .info "Shutting down resolver loop" []

/-- Starts the loop. -/
def startLoop (r : Rhythm) : Program Unit := do
  log (loopStarting r)
  if r.interval = 0 then .halt .zeroPeriod else return ()

/-- When the sweep of a number falls due, from the start of the loop. -/
def dueAt (r : Rhythm) (sweepNumber : Nat) : Nat :=
  sweepNumber * r.interval

/-- Logs and reports how a sweep ended. -/
def reportSweep (r : Rhythm) : SweepEnd → Program Unit
  | .finished report => do
    log (.debug "Sweep complete"
      [("examined", .int report.examined), ("resolved", .int report.resolved),
        ("alerts", .int report.alertsSent), ("alert_failures", .int report.alertFailures),
        ("skipped", .int report.skipped)])
    request (.succeeded .resolver)
    request (.succeeded .repository)
  | .failed error => do
    count .sweepErrors 1
    log (.warn "Sweep aborted" [("error", .str error.message)])
    match error with
    | .persistence _ => request (.failed .repository error.message)
    | _ => pure ()
    request (.failed .resolver error.message)
  | .cutOff => do
    count .sweepErrors 1
    log (.warn "Sweep deadline exceeded" [("timeout_secs", .int (r.limit / 1000))])
    request (.failed .resolver "sweep deadline exceeded")

end IncidentWatch.Engine

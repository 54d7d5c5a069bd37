import IncidentWatch.Simulation.Serve

/-!
# The loop in virtual time

The loop runs alone. A sweep whose time comes while the one before it is still
under way follows it at once. The loop is told to stop at a moment: sweeps that
fall due by then are begun unless that moment has passed when their turn comes,
and a sweep that is under way is finished first.
-/

set_option autoImplicit false

namespace IncidentWatch.Simulation

/-- Lets time pass until a moment, if it has not passed yet. -/
def World.waitUntil (w : World) (moment : Nat) : World :=
  { w with elapsed := max w.elapsed moment }

/-- Runs one sweep within its limit, and reports how it ended. -/
def runSweep (e : Engine) (r : Engine.Rhythm) (w : World) : Ending Unit × World :=
  let (ending, w) := (activity e (e.sweep w.present).run).run (some (w.elapsed + r.limit)) w
  let report (sweepEnd : Engine.SweepEnd) :=
    (quietActivity (Engine.reportSweep r sweepEnd)).run none w
  match ending with
  | .value (.ok counts) => report (.finished counts)
  | .value (.error error) => report (.failed error)
  | .cutOff => report .cutOff
  | .fault f => (.fault f, w)

/-- Runs the sweeps that fall due at some moments, until the loop is stopped. -/
def runSweeps (e : Engine) (r : Engine.Rhythm) (stop : Nat) : List Nat → World → Ending Unit × World
  | [], w => (.value (), w)
  | due :: rest, w =>
    if stop ≤ w.elapsed then (.value (), w)
    else match runSweep e r (w.waitUntil due) with
      | (.value (), w) => runSweeps e r stop rest w
      | stopped => stopped

/-- Runs the loop and stops it after a time; it ends by itself only with a fault. -/
def runLoop (e : Engine) (r : Engine.Rhythm) (time : Nat) (w : World) : Ending Unit × World :=
  let stop := w.elapsed + time
  let due := (List.range (time / r.interval + 1)).map fun n => w.elapsed + Engine.dueAt r n
  match (quietActivity (Engine.startLoop r)).run none w with
  | (.value (), w) =>
    match runSweeps e r stop due w with
    | (.value (), w) => (.value (), (w.waitUntil stop).log Engine.loopEnding)
    | (stopped, w) => (stopped, w.waitUntil stop)
  | (stopped, w) => (stopped, w.waitUntil stop)

end IncidentWatch.Simulation

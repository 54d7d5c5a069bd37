import IncidentWatch.Proofs.Health.Sharing
import IncidentWatch.Proofs.Interleaving.Sample
import IncidentWatch.Proofs.Settings.Numbers

/-!
# The rhythm that the environment sets

The loop of sweeps starts, reports how each sweep ended, whether in time or cut off, and at
last is told to stop (`Engine.loopOver`). Of its own it meets one fault, at the start: an
interval of nothing. Everything it asks after that is a report or an entry of the log, so
what can still stop it is a count of failures that is full.

The interval and the limit of the sweeps are what the environment sets. Which environments
set an interval of nothing is known from their texts, so the loops that last are those of all
others (`loop_lasts_until_stopped_iff`).
-/

set_option autoImplicit false

namespace IncidentWatch

namespace Engine

open Program

/-- The loop until it is told to stop, if its sweeps end like this, one after the other. -/
def loopOver (r : Rhythm) (ends : List SweepEnd) : Program Unit := do
  startLoop r
  ends.forM (reportSweep r)
  log loopEnding

variable {r : Rhythm}

theorem unbroken_reportSweep (r : Rhythm) (sweepEnd : SweepEnd) :
    (reportSweep r sweepEnd).Unbroken := by
  cases sweepEnd with
  | finished report => exact fun _ _ _ => trivial
  | cutOff => exact fun _ _ _ => trivial
  | failed error =>
      cases error with
      | persistence cause => exact fun _ _ _ _ => trivial
      | _ => exact fun _ _ _ => trivial

/-- A loop with an interval meets no fault by itself, however its sweeps end. -/
theorem unbroken_loopOver (ends : List SweepEnd) (paused : r.interval ≠ 0) :
    (loopOver r ends).Unbroken := by
  have started : (startLoop r).Unbroken := by
    unfold startLoop
    rw [if_neg paused]
    exact fun _ => trivial
  have reported : (ends.forM (reportSweep r)).Unbroken := by
    induction ends with
    | nil => trivial
    | cons sweepEnd rest inductionHypothesis =>
        rw [List.forM_eq_forM, List.forM_cons]
        exact (unbroken_reportSweep r sweepEnd).bind fun _ => inductionHypothesis
  exact started.bind fun _ => reported.bind fun _ _ => trivial

/-- A loop without an interval is stopped at its start. -/
theorem beside_loopOver_of_no_interval (none : r.interval = 0) (ends : List SweepEnd)
    (moments : Nat → Moment) (n : Nat) (registry : HealthRegistry) :
    ((loopOver r ends).beside moments n registry).1 = .error .zeroPeriod := by
  have stopped : loopOver r ends = .ask (.log (loopStarting r)) fun _ => .halt .zeroPeriod := by
    unfold loopOver startLoop
    rw [if_pos none]
    rfl
  rw [stopped]
  rfl

theorem interval_ofSettings_eq_zero_iff {s : AgentSettings} :
    (Rhythm.ofSettings s).interval = 0 ↔ s.resolveInterval = 0 := by
  show s.resolveInterval.toNat * 1000 = 0 ↔ _
  rw [Nat.mul_eq_zero, or_iff_left (by decide), ← UInt64.toNat_inj]
  rfl

end Engine

open Engine

/-- The loop of any environment lasts until it is told to stop, however its sweeps end and whatever
others report meanwhile, unless the environment leaves no pause between them or a count of
failures is full. Without a pause the loop is stopped at its start, before any sweep. There is room
for all failures where fewer reports are made than a word can count. -/
theorem loop_lasts_until_stopped_iff (env : Environment) (ends : List SweepEnd)
    (moments : Nat → Moment) (registry : HealthRegistry) :
    let loop := loopOver (.ofSettings env.agentSettings) ends
    ((loop.beside moments 0 registry).1 = .ok () ↔
      ¬ env.LeavesNoPause ∧ HasRoom registry.failures (loop.told moments 0)) ∧
    (env.LeavesNoPause → (loop.beside moments 0 registry).1 = .error .zeroPeriod) ∧
    ((∀ c, registry.failures c + (loop.told moments 0).length < 4294967296) →
      HasRoom registry.failures (loop.told moments 0)) := by
  intro loop
  have paused : (Rhythm.ofSettings env.agentSettings).interval = 0 ↔ env.LeavesNoPause :=
    interval_ofSettings_eq_zero_iff.trans Environment.resolveInterval_eq_zero_iff
  have stopped (noPause : env.LeavesNoPause) :
      (loop.beside moments 0 registry).1 = .error .zeroPeriod :=
    beside_loopOver_of_no_interval (paused.2 noPause) ends moments 0 registry
  -- With a pause, the loop comes to its end or meets a full count.
  have ended (pause : ¬ env.LeavesNoPause) :=
    (unbroken_loopOver ends fun none => pause (paused.1 none)).beside registry.counts_failures
      moments 0
  refine ⟨⟨fun lasted => ?_, fun ⟨pause, room⟩ => ?_⟩, stopped, fun few => ?_⟩
  · have pause : ¬ env.LeavesNoPause := fun noPause => by
      rw [stopped noPause] at lasted
      cases lasted
    refine ⟨pause, Classical.byContradiction fun full => ?_⟩
    have cut : (loop.beside moments 0 registry).1 = .error .addOverflow := (ended pause).2 full
    rw [cut] at lasted
    cases lasted
  · obtain ⟨⟨⟩, lasted⟩ := (ended pause).1 room
    exact lasted
  · exact hasRoom_of_few fun c => Nat.le_of_lt_succ (few c)

/-- Moments in which others report that the store has failed, and requests are answered. -/
def whileStoreFails (_ : Nat) : Moment where
  others := [(.epoch, .failed .repository "down")]
  now := .epoch
  answer := (Interleaving.Sample.willing "").answer

/-- Of these sweeps one is cut off, one fails with the store, and one is done. -/
def roughSweeps : List SweepEnd :=
  [.cutOff, .failed (.persistence (.backend "down")), .finished { examined := 1 }]

/-- An environment that sets seven seconds between sweeps, and no time for any of them. -/
def hurriedEnvironment : Environment :=
  .ofList [("INCIDENT_RESOLVE_INTERVAL_SECS", "+007"), ("incident_sweep_timeout_secs", "Off")]

/-- While others report failures of the store all the time, the loop lasts through rough sweeps. -/
theorem loop_lasts_until_stopped_iff_of_hurried :
    let loop := loopOver (.ofSettings hurriedEnvironment.agentSettings) roughSweeps
    hurriedEnvironment.agentSettings =
        { nodeName := "unknown", resolveInterval := 7, sweepLimit := 0 } ∧
      (loop.beside whileStoreFails 0 {}).1 = .ok () := by
  intro loop
  have settings : hurriedEnvironment.agentSettings =
      { nodeName := "unknown", resolveInterval := 7, sweepLimit := 0 } := by decide +kernel
  obtain ⟨lasts, -, room⟩ :=
    loop_lasts_until_stopped_iff hurriedEnvironment roughSweeps whileStoreFails {}
  refine ⟨settings, lasts.2 ⟨fun noPause => ?_, room fun c => ?_⟩⟩
  · have none := Environment.resolveInterval_eq_zero_iff.2 noPause
    rw [settings] at none
    exact absurd none (by decide)
  · cases c <;> decide +kernel

/-- An environment that leaves no pause between the sweeps. -/
def restlessEnvironment : Environment :=
  .ofList [("INCIDENT_RESOLVE_INTERVAL_SECS", "0")]

/-- The settings of an environment that leaves no pause are taken as they are, and the loop is
stopped at its start. -/
theorem restless_loop_does_not_start :
    restlessEnvironment.agentSettings = { nodeName := "unknown", resolveInterval := 0 } ∧
      ((loopOver (.ofSettings restlessEnvironment.agentSettings) []).beside whileStoreFails 0
        {}).1 = .error .zeroPeriod := by
  decide +kernel

end IncidentWatch

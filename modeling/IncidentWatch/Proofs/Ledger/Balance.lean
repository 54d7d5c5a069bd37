import IncidentWatch.Proofs.Course.Runs
import IncidentWatch.Proofs.Interleaving.Sample
import IncidentWatch.Proofs.Ledger.Batch
import IncidentWatch.Proofs.Ledger.Gauge

/-!
# Balances of sweeps

What an operation is charged for is what the balances change by, whoever runs beside it
(`Standing.balance_answered`). Batches are charged nothing (`Standing.charge_of_batch`). So
while one sweep is under way and only batches run beside it, each balance is that before the
sweep and the charges in its ledger, and when it has ended, what its report says
(`Settling`).
-/

set_option autoImplicit false

namespace IncidentWatch

namespace Engine

open Interleaving (Operation Outcome)

variable {e : Engine} {events : List Event} {now : Instant} {stage : Stage} {i j : Incident}

/-- What operations may ask for with their ledgers: sweeps only with care. -/
def LedgerOf : Operation → Ledger → Request → Prop
  | .sweep _ => SweepCareful
  | .batch _ _ => fun _ _ => True

/-- A sweep ends with a report that balances. -/
def EndsBalanced : Outcome → Ledger → Prop
  | .sweep (.ok report), l => Balanced report.examined report.examined report l
  | _, _ => True

theorem heeds_ledger (e : Engine) (op : Operation) :
    (op.program e).Heeds ledger (LedgerOf op) EndsBalanced ledger.start := by
  cases op with
  | batch events now =>
      exact Program.heeds_bind ((Program.heeds_of_free (fun _ _ => trivial) _ _).mono
        fun _ _ _ => trivial)
  | sweep now =>
      refine Program.heeds_bind (Program.Heeds.mono (heeds_sweep e now) fun result l holds => ?_)
      cases result with
      | ok report => exact holds
      | error error => trivial

/-- Merging leaves the status as it is. -/
theorem Change.status_of_batch (change : e.Change (.batch events now) stage i j) :
    j.status = i.status := by
  cases change with
  | @merged events now listed target owner candidate among isCandidate =>
      obtain ⟨scope, same⟩ := i.merge_eq candidate.events owner now
      rw [same]

theorem not_deliver_of_batchMay {kind : AlertKind} {view : IncidentView}
    (may : e.BatchMay now events stage (.deliver kind view)) : False := by
  cases stage <;> exact may.elim

end Engine

namespace Interleaving

open IncidentWatch.Interleaving.System

/-! ## Charges and balances -/

/-- The ledger that is read off the history has what was seen under the lock. -/
theorem known_reading (t : Nat) (history : List Entry) :
    (ledger.reading t history).known = seen t history := by
  induction history with
  | nil => rfl
  | cons entry earlier inductionHypothesis =>
      obtain ⟨u, what⟩ := entry
      unfold Observer.reading seen
      by_cases same : u = t
      · simp only [same, if_true]
        cases what with
        | answered r a => exact congrArg (seenAfter · r a) inductionHypothesis
        | _ => rfl
      · simp only [same, if_false]
        exact inductionHypothesis

namespace Standing

variable {e : Engine} {s s' : System} {t : Nat} {task : Task} {r : Request}
  {next : r.Answer → Program Outcome} {c : Collaborators} {a : r.Answer} {store : Store}
  (standing : Standing e s) (here : s.tasks t = some task) (asks : task.rest = .ask r next)
include standing here asks

/-- Whatever an operation is about to ask for has its proper charge, if it only counts up. -/
theorem accountable
    (adds : ∀ m, r = .measure m → ∀ account : Account, m.OnlyAdds account.series) :
    Accountable (seen t s.history) s.store r := by
  cases r with
  | create i =>
      obtain ⟨events, now, -, owner, -, id, ids, object, -, rfl⟩ :=
        Engine.candidate_of_may ((standing.onCourse t).may here asks)
      rfl
  | update i =>
      obtain ⟨old, may⟩ : ∃ old, MayUpdate t s.toSituation i old :=
        standing.steady.allowed here asks
      exact ⟨old, may.stored, may.known, may.evolves.closed⟩
  | measure m => exact adds m rfl
  | _ => trivial

/-- Batches are charged nothing. -/
theorem charge_of_batch {events : List Event} {now : Instant}
    (files : task.operation = .batch events now) (elsewhere : r.CountsElsewhere)
    (account : Account) : charge (seen t s.history) r a account = 0 := by
  have may := (standing.onCourse t).may here asks
  rw [files] at may
  cases r with
  | update i =>
      cases a with
      | error error => rfl
      | ok written =>
          obtain ⟨old, allowed⟩ : ∃ old, MayUpdate t s.toSituation i old :=
            standing.steady.allowed here asks
          obtain ⟨old', stored, -, change⟩ := standing.change here asks
          obtain rfl := Option.some.inj (allowed.stored.symm.trans stored)
          rw [files] at change
          exact Ledger.charge_of_same_status allowed.known change.status_of_batch account
  | deliver kind view => exact (Engine.not_deliver_of_batchMay may).elim
  | measure m => exact (elsewhere account).1
  | _ => rfl

end Standing

section Answered

variable {e : Engine} {schedule : List Turn} {s' : System} {t : Nat} {task : Task} {r : Request}
  {next : r.Answer → Program Outcome}

/-- The metrics of accounts are only counted up. -/
theorem onlyAdds_after (here : (after e schedule).tasks t = some task)
    (asks : task.rest = .ask r next) (m : Measure) (measures : r = .measure m) (account : Account) :
    m.OnlyAdds account.series := by
  have careful := may_after e.heeds_ledger schedule here asks
  have elsewhere := may_after e.heeds_measures schedule here asks
  subst measures
  cases op : task.operation with
  | batch events now =>
      rw [op] at elsewhere
      exact (elsewhere account).2
  | sweep now =>
      rw [op] at careful
      rcases careful with prunes | careful
      · cases prunes
      · exact careful account

/-- The balance changes by what the operation is charged for. -/
theorem balance_resume {c : Collaborators} {a : r.Answer} {store : Store}
    (here : (after e schedule).tasks t = some task) (asks : task.rest = .ask r next)
    (served : serve c (after e schedule).store r = some (a, store)) (rest : Program Outcome)
    (account : Account) :
    ((after e schedule).resume t task.operation r a store rest).balance account =
      (after e schedule).balance account + charge (seen t (after e schedule).history) r a account :=
  balance_answered served
    ((standing_after e schedule).accountable here asks (onlyAdds_after here asks)) account

/-- A move of what is no sweep changes no balance. -/
theorem balance_of_move (move : Move e (after e schedule) t s')
    (idle : (after e schedule).sweeping? t = none) (account : Account) :
    s'.balance account = (after e schedule).balance account := by
  cases move with
  | begun op => exact balance_note (.begun op) (fun _ _ same => nomatch same) account
  | queued here asks new => rfl
  | @answered _ task r next c a store here asks granted served =>
      refine (balance_resume here asks served _ account).trans ?_
      cases op : task.operation with
      | sweep now => cases (sweeping?_of_task here op).symm.trans idle
      | batch events now =>
          have elsewhere := may_after e.heeds_measures schedule here asks
          rw [op] at elsewhere
          rw [(standing_after e schedule).charge_of_batch here asks op elsewhere, Int.add_zero]
  | @ended _ task outcome here finished =>
      exact balance_note (.ended task.operation outcome) (fun _ _ same => nomatch same) account
  | stopped here => exact balance_note .stopped (fun _ _ same => nomatch same) account

end Answered

/-! ## Reports -/

/-- The reports of the sweeps that ended well, with the numbers of these. -/
def reports (history : List Entry) : List (Nat × SweepReport) :=
  history.filterMap fun entry =>
    match entry.what with
    | .ended _ (.sweep (.ok report)) => some (entry.task, report)
    | _ => none

theorem mem_reports_iff {t : Nat} {report : SweepReport} {history : List Entry} :
    (t, report) ∈ reports history ↔ ∃ op, ⟨t, .ended op (.sweep (.ok report))⟩ ∈ history := by
  unfold reports
  rw [List.mem_filterMap]
  constructor
  · rintro ⟨⟨u, what⟩, member, tells⟩
    dsimp only at tells
    split at tells
    · cases tells
      exact ⟨_, member⟩
    · cases tells
  · rintro ⟨op, member⟩
    exact ⟨_, member, rfl⟩

/-- Every report was one that balances, when the sweep ended. -/
theorem balanced_of_report (e : Engine) (schedule : List Turn) {t : Nat} {report : SweepReport}
    (member : (t, report) ∈ reports (after e schedule).history) :
    ∃ l, Engine.Balanced report.examined report.examined report l := by
  obtain ⟨op, member⟩ := mem_reports_iff.1 member
  revert member
  refine after_moves (P := fun s => ⟨t, .ended op (.sweep (.ok report))⟩ ∈ s.history → _) nofun ?_
    schedule
  intro earlier u s' balanced move member
  cases move with
  | queued here asks new => exact balanced member
  | @ended _ task outcome here finished =>
      rcases List.mem_cons.1 member with new | before
      · cases new
        exact ⟨_, ends_after e.heeds_ledger earlier here finished⟩
      · exact balanced before
  | _ =>
      cases member with
      | tail _ before => exact balanced before

/-! ## One sweep and the batches beside it -/

/-- Since some state, one sweep has been under way, beside batches only. As long as it is, the
balances have changed by its charges; when it has ended with a report, by what the report says. -/
structure Settling (start s : System) (t : Nat) : Prop where
  numbered : t < s.begun
  alone : ∀ u, u ≠ t → s.sweeping? u = none
  charged : ∀ task, s.tasks t = some task → ∀ account,
    s.balance account = start.balance account + (ledger.reading t s.history).charges account
  ended : ∀ op report, ⟨t, .ended op (.sweep (.ok report))⟩ ∈ s.history → s.tasks t = none ∧
    ∀ account, s.balance account = start.balance account + report.amount account

section Runs

variable {e : Engine} {schedule : List Turn} {start s' : System} {t u : Nat}

theorem settling_begin (resting : (after e schedule).Resting) (now : Instant) :
    Settling (after e schedule) ((after e schedule).begin e (.sweep now))
      (after e schedule).begun := by
  refine ⟨Nat.lt_succ_self _, fun u apart => ?_, fun task here account => ?_, ?_⟩
  · rw [sweeping?_of_other (.begun _) apart]
    exact resting.sweeping? (standing_after e schedule) u
  · have starts : ledger.reading (after e schedule).begun
        ((after e schedule).begin e (.sweep now)).history = ledger.start := ledger.reading_begun
    rw [starts]
    exact (balance_note (.begun (.sweep now)) (fun _ _ same => nomatch same) account).trans
      (Int.add_zero _).symm
  · intro op report member
    cases member with
    | tail _ before => exact absurd (task_lt_begun e schedule _ before) (Nat.lt_irrefl _)

namespace Settling

variable (settling : Settling start (after e schedule) t)
include settling

/-- Whoever else makes a move leaves the sweep and the balances alone. -/
theorem other (move : Move e (after e schedule) u s') (apart : u ≠ t)
    (idle : ∀ v, v ≠ t → s'.sweeping? v = none) : Settling start s' t := by
  have same := fun account => balance_of_move move (settling.alone u apart) account
  have more : (after e schedule).begun ≤ s'.begun := by
    cases move with
    | begun op => exact Nat.le_succ _
    | _ => exact Nat.le_refl _
  refine ⟨Nat.lt_of_lt_of_le settling.numbered more, idle, fun task here account => ?_, ?_⟩
  · rw [move_tasks move apart.symm] at here
    rw [same, move_reading ledger move apart.symm]
    exact settling.charged task here account
  · intro op report member
    have before : ⟨t, .ended op (.sweep (.ok report))⟩ ∈ (after e schedule).history := by
      rcases move_history move with grown | ⟨what, grown⟩
      · rw [grown] at member
        exact member
      · rw [grown] at member
        rcases List.mem_cons.1 member with new | old
        · cases new
          exact absurd rfl apart
        · exact old
    obtain ⟨gone, balances⟩ := settling.ended op report before
    rw [move_tasks move apart.symm]
    exact ⟨gone, fun account => (same account).trans (balances account)⟩

/-- The sweep itself goes on, and what it is charged for is in its ledger. -/
theorem own (move : Move e (after e schedule) t s')
    (goesOn : s'.begun = (after e schedule).begun) : Settling start s' t := by
  have alone : ∀ v, v ≠ t → s'.sweeping? v = none := fun v apart =>
    sweeping?_of_move move goesOn (settling.alone v apart)
  -- Whoever moves is under way, so no report was given before.
  have unended : ∀ {task}, (after e schedule).tasks t = some task → ∀ {op report},
      ⟨t, .ended op (.sweep (.ok report))⟩ ∉ (after e schedule).history := by
    intro task here op report member
    cases here.symm.trans (settling.ended op report member).1
  cases move with
  | begun op => exact absurd goesOn (Nat.succ_ne_self _)
  | queued here asks new =>
      exact ⟨settling.numbered, alone, fun task' _ => settling.charged _ here,
        fun op report member => absurd member (unended here)⟩
  | @answered _ task r next c a store here asks granted served =>
      refine ⟨settling.numbered, alone, fun task' _ account => ?_, fun op report member => ?_⟩
      · refine (balance_resume here asks served _ account).trans ?_
        rw [settling.charged _ here, Int.add_assoc, ← known_reading]
        exact congrArg (fun l : Ledger => start.balance account + l.charges account)
          (ledger.reading_answered (t := t) (r := r) (a := a)).symm
      · cases member with
        | tail _ before => exact absurd before (unended here)
  | @ended _ task outcome here finished =>
      have gone : ((after e schedule).leave t (.ended task.operation outcome)).tasks t = none :=
        Function.update_self _ _ _
      refine ⟨settling.numbered, alone, fun task' here' => ?_, fun op report member => ⟨gone, ?_⟩⟩
      · cases gone.symm.trans here'
      · intro account
        rcases List.mem_cons.1 member with new | before
        · cases new
          obtain ⟨-, charges, -, -⟩ : Engine.Balanced report.examined report.examined report
              (ledger.reading t (after e schedule).history) :=
            ends_after e.heeds_ledger schedule here finished
          refine (balance_note (.ended task.operation (.sweep (.ok report)))
            (fun _ _ same => nomatch same) account).trans ?_
          rw [settling.charged _ here, charges]
        · exact absurd before (unended here)
  | stopped here =>
      have gone : ((after e schedule).leave t .stopped).tasks t = none :=
        Function.update_self _ _ _
      refine ⟨settling.numbered, alone, fun task' here' => ?_, fun op report member => ?_⟩
      · cases gone.symm.trans here'
      · cases member with
        | tail _ before => exact absurd before (unended here)

theorem turn {turn : Turn} (files : ∀ now, turn ≠ .begin (.sweep now)) :
    Settling start (after e (schedule ++ [turn])) t := by
  rw [after_append]
  show Settling start (step e (after e schedule) turn) t
  by_cases begins : ∃ op, turn = .begin op
  · obtain ⟨op, rfl⟩ := begins
    cases op with
    | sweep now => exact absurd rfl (files now)
    | batch events now =>
        refine settling.other (.begun _) (Nat.ne_of_gt settling.numbered) fun v apart => ?_
        by_cases new : v = (after e schedule).begun
        · subst new
          exact sweeping?_of_batch (Function.update_self _ _ _) rfl
        · exact (sweeping?_of_other (.begun _) new).trans (settling.alone v apart)
  · have goesOn : (step e (after e schedule) turn).begun = (after e schedule).begun :=
      begun_step fun op same => begins ⟨op, same⟩
    rcases step_cases e (after e schedule) turn with same | ⟨u, move⟩
    · rw [same]
      exact settling
    · by_cases apart : u = t
      · subst apart
        exact settling.own move goesOn
      · exact settling.other move apart fun v other =>
          sweeping?_of_move move goesOn (settling.alone v other)

end Settling

theorem settling_after (resting : (after e schedule).Resting) (now : Instant)
    (during : List Turn) (files : ∀ later, .begin (.sweep later) ∉ during) :
    Settling (after e schedule) (after e (schedule ++ .begin (.sweep now) :: during))
      (after e schedule).begun := by
  induction during using List.reverseRecOn with
  | nil =>
      rw [after_append]
      exact settling_begin resting now
  | append_singleton earlier turn inductionHypothesis =>
      have settling := inductionHypothesis fun later member =>
        files later (List.mem_append_left _ member)
      rw [← List.cons_append, ← List.append_assoc]
      refine settling.turn fun later begins => files later ?_
      rw [begins]
      exact List.mem_append_right _ (List.mem_singleton_self _)

end Runs

/-- The reports of sweeps. Whatever runs beside a sweep, its report counts no examined incident both
as resolved and as skipped, and none twice as announced, failed to announce or skipped. If only
batches run beside it, each account has changed by what the report says, whatever the notifier, the
cluster and the store do. And where nobody else writes, the gauge shows how many active incidents
are left in the store, and once all are examined nothing keeps the sweep from its report. -/
theorem sweep_report_balances (e : Engine) :
    (∀ (schedule : List Turn) (t : Nat) (report : SweepReport),
      (t, report) ∈ reports (after e schedule).history →
        report.resolved + report.skipped ≤ report.examined ∧
        report.alertsSent + report.alertFailures + report.skipped ≤ report.examined) ∧
    (∀ (before during : List Turn) (now : Instant) (report : SweepReport),
      (after e before).Resting → (∀ later, .begin (.sweep later) ∉ during) →
      ((after e before).begun, report) ∈
        reports (after e (before ++ .begin (.sweep now) :: during)).history →
        ∀ account, (after e (before ++ .begin (.sweep now) :: during)).balance account =
          (after e before).balance account + report.amount account) ∧
    (∀ (c : Nat → Collaborators) (n : Nat) (s : Store) (now : Instant), s.size < UInt64.size →
      Engine.Gauged (Sequential.converse c (e.sweep now).run n s)) := by
  refine ⟨fun schedule t report member => ?_, ?_, ?_⟩
  · obtain ⟨l, balanced⟩ := balanced_of_report e schedule member
    exact ⟨balanced.settled, balanced.announced⟩
  · intro before during now report resting files member account
    obtain ⟨op, ended⟩ := mem_reports_iff.1 member
    exact ((settling_after resting now during files).ended op report ended).2 account
  · exact fun c n s now room => Engine.leads_gauge e now s room n

/-- Two critical incidents are created, and settle. -/
def twoToSettle : List Turn :=
  Sample.running 0 (.batch [Sample.event "web-0" "OOMKilled"] .epoch) "a" 14 ++
    Sample.running 1 (.batch [Sample.event "web-0" "BackOff"] .epoch) "b" 14

/-- While the first of them is resolved, which the notifier refuses to announce, an event is merged
into the second. -/
def mergedMeanwhile : List Turn :=
  Sample.going 2 "" 2 ++
    Sample.running 3 (.batch [Sample.event "web-1" "BackOff"] Sample.settled) "c" 12 ++
    List.replicate 12 (.proceed 2 Sample.refusing) ++ Sample.going 3 "c" 12 ++
    Sample.going 2 "" 20

/-- A store with an incident to settle, one that was seen just now, and one that is resolved. -/
def oneToSettle : Store where
  incidents := [Sample.incident "a", { Sample.incident "b" with lastSeen := Sample.settled },
    { Sample.incident "c" with status := .resolved }]
  distinct := by decide

/-- What is reported of that sweep. -/
def settledOne : SweepReport :=
  { examined := 2, resolved := 1, alertsSent := 1, alertFailures := 1, skipped := 0 }

theorem sweep_report_balances_beside_a_merge :
    let start := after Sample.engine twoToSettle
    let s := after Sample.engine (twoToSettle ++ .begin (.sweep Sample.settled) :: mergedMeanwhile)
    let talk := Sequential.converse (fun _ => Sample.refusing)
      (Sample.engine.sweep Sample.settled).run 0 oneToSettle
    reports s.history = [(2, settledOne)] ∧
      settledOne.alertsSent + settledOne.alertFailures + settledOne.skipped ≤
        settledOne.examined ∧
      (∀ account, s.balance account = start.balance account + settledOne.amount account) ∧
      (Metrics.after {} talk.exchanges).value .activeIncidents = 1 := by
  have ended : reports (after Sample.engine (twoToSettle ++ .begin (.sweep Sample.settled) ::
      mergedMeanwhile)).history = [(2, settledOne)] := by decide +kernel
  have member := ended ▸ List.mem_singleton_self (2, settledOne)
  have begun : (after Sample.engine twoToSettle).begun = 2 := by decide +kernel
  have resting : (after Sample.engine twoToSettle).Resting := by decide +kernel
  have files : ∀ later, Turn.begin (.sweep later) ∉ mergedMeanwhile := by
    simp [mergedMeanwhile, Sample.running, Sample.going]
  have came : (Sequential.converse (fun _ => Sample.refusing)
      (Sample.engine.sweep Sample.settled).run 0 oneToSettle).result =
        some (.ok { settledOne with alertsSent := 0 }) := by decide +kernel
  have left : (Sequential.converse (fun _ => Sample.refusing)
      (Sample.engine.sweep Sample.settled).run 0 oneToSettle).store.countOf .active = 1 := by
    decide +kernel
  refine ⟨ended, ?_, ?_, ?_⟩
  · exact ((sweep_report_balances Sample.engine).1 _ 2 settledOne member).2
  · exact (sweep_report_balances Sample.engine).2.1 twoToSettle mergedMeanwhile Sample.settled
      settledOne resting files (begun ▸ member)
  · have gauged := (sweep_report_balances Sample.engine).2.2 (fun _ => Sample.refusing) 0
      oneToSettle Sample.settled (by decide)
    rw [gauged.shows _ came, left]
    rfl

end Interleaving

end IncidentWatch

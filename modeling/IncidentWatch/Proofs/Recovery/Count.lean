import IncidentWatch.Proofs.Recovery.Streak

/-!
# Counting healthy answers

A sweep that was told that a deployment is healthy asks next for the record with one more
answer counted; as long as the count fits its word, it can neither end there nor break off
(`asks_update_of_probed`). Once that is stored, entries in the log apart, the sweep either
resolves the incident or gives back the lock, and the count alone decides which
(`deed?_of_counted`). If the store refuses the count, only the lock is left to give back
(`asks_unlock_of_leaving`).

The count that is stored with an incident is the length of its streak all the while,
whatever else was asked, answered or refused in between (`healthy_answers_are_counted`).
-/

set_option autoImplicit false

namespace IncidentWatch

open Interleaving (Operation Outcome)

/-- What a program asks for first, entries in the log apart. -/
def Program.deed? {α : Type} : Program α → Option Request
  | .done _ => none
  | .halt _ => none
  | .ask (.log _) next => (next ()).deed?
  | .ask r _ => some r

/-- A count is stored where an answer was about to be counted; else it was stored before, and what
was answered since has left the locks alone. -/
theorem Stage.next_eq_counted {stage : Stage} {r : Request} {a : r.Answer} {i : Incident}
    {health : RolloutHealth} (counted : stage.next r a = .counted i health) :
    (r = .update i ∧ ∃ j, stage = .probed j health) ∨
      stage = .counted i health ∧ ∀ before, Interleaving.heldAfter before r = before := by
  cases r with
  | lock release => cases stage <;> cases counted
  | unlock release => cases stage <;> cases counted
  | pruneLocks => cases counted
  | create j => cases counted
  | update j =>
      cases a with
      | error error => cases stage <;> cases counted
      | ok stored =>
          cases stage with
          | probed k health' =>
              cases counted
              exact Or.inl ⟨rfl, k, rfl⟩
          | _ => cases counted
  | read id =>
      cases a with
      | error error => cases stage <;> cases counted
      | ok j =>
          cases stage with
          | marking k kind => cases counted
          | _ =>
              simp only [next, read] at counted
              split at counted <;> cases counted
  | list f p =>
      cases a with
      | error error => cases stage <;> cases counted
      | ok page =>
          cases stage with
          | counted j health' => exact Or.inr ⟨counted, fun _ => rfl⟩
          | _ => cases counted
  | rollout namespaceName name limit =>
      cases stage with
      | counted j health' => exact Or.inr ⟨counted, fun _ => rfl⟩
      | found j => cases a <;> cases counted
      | _ => cases counted
  | deliver kind view =>
      cases stage with
      | counted j health' => exact Or.inr ⟨counted, fun _ => rfl⟩
      | judged j verdict => cases a <;> cases counted
      | _ => cases counted
  | _ => exact Or.inr ⟨counted, fun _ => rfl⟩

namespace Engine

variable {e : Engine} {op : Operation} {i j : Incident} {health : RolloutHealth}
  {stage : Stage}

/-- A healthy answer is counted by adding one, if the count has room for it. -/
theorem counts_iff_of_healthy (well : health.isFailing = .ok false)
    (room : i.resolvedRetryCount.toNat + 1 < UInt32.size) :
    Counts i health j ↔ j = { i with resolvedRetryCount := i.resolvedRetryCount + 1 } := by
  have sum : (i.resolvedRetryCount + 1).toNat = i.resolvedRetryCount.toNat + 1 := by
    rw [UInt32.toNat_add]
    exact Nat.mod_eq_of_lt room
  constructor
  · intro counts
    cases counts with
    | failing ill => cases ill.symm.trans well
    | healthy _ retries counted => rw [UInt32.toNat_inj.1 (counted.trans sum.symm)]
  · rintro rfl
    exact .healthy well _ sum

/-- Operations end only apart from all incidents, or after a verdict. -/
theorem ends_cases (ends : e.Ends op stage) :
    stage = .apart ∨ ∃ i verdict, stage = .judged i verdict := by
  cases op with
  | batch events now => exact Or.inl ends
  | sweep now =>
      rcases ends with apart | ⟨i, verdict, judged, -⟩
      · exact Or.inl apart
      · exact Or.inr ⟨i, verdict, judged⟩

theorem not_ends_probed : ¬ e.Ends op (.probed i health) := by
  intro ends
  rcases ends_cases ends with same | ⟨_, _, same⟩ <;> cases same

theorem not_ends_counted : ¬ e.Ends op (.counted i health) := by
  intro ends
  rcases ends_cases ends with same | ⟨_, _, same⟩ <;> cases same

variable {p : Program Outcome}

/-- An answer that can be counted is counted next. -/
theorem asks_update_of_probed
    (follows : p.Follows (e.May op) (fun _ => e.Ends op) (.probed i health))
    (countable : Counts i health j) :
    ∃ k next, p = .ask (.update k) next ∧ Counts i health k := by
  cases p with
  | done outcome => exact (not_ends_probed follows).elim
  | halt fault => exact (follows j countable).elim
  | ask r next =>
      obtain ⟨k, rfl, counts⟩ := counts_of_may follows.1
      exact ⟨k, next, rfl, counts⟩

/-- After an answer was counted, the incident is resolved if it has recovered, and else the lock is
given back. -/
theorem deed?_of_counted
    (follows : p.Follows (e.May op) (fun _ => e.Ends op) (.counted i health)) :
    ∃ now, op = .sweep now ∧
      (e.Recovered i health ∧ p.deed? = some (.update (i.resolvedAt now)) ∨
        ¬ e.Recovered i health ∧ ∃ release, p.deed? = some (.unlock release)) := by
  induction p with
  | done outcome => exact (not_ends_counted follows).elim
  | halt fault => exact follows.elim
  | ask r next inductionHypothesis =>
      cases op with
      | batch events now => exact follows.1.elim
      | sweep now =>
          cases r with
          | log entry => exact inductionHypothesis () (follows.2 ())
          | update k =>
              obtain ⟨-, recovered, rfl⟩ := follows.1
              exact ⟨now, rfl, Or.inl ⟨recovered, rfl⟩⟩
          | unlock release => exact ⟨now, rfl, Or.inr ⟨follows.1, release, rfl⟩⟩
          | _ => exact follows.1.elim

/-- A sweep that has nothing left to do under a lock gives it back. -/
theorem asks_unlock_of_leaving {now : Instant} {r : Request}
    (may : e.May (.sweep now) .leaving r) : ∃ release, r = .unlock release := by
  cases r with
  | unlock release => exact ⟨release, rfl⟩
  | _ => exact may.elim

end Engine

namespace Interleaving

open IncidentWatch.Interleaving.System

/-- What an operation under way asks for next, entries in the log apart. -/
def System.deed? (s : System) (t : Nat) : Option Request :=
  (s.tasks t).bind (·.rest.deed?)

section Deeds

variable {e : Engine} {s s' : System} {t : Nat} {task : Task} {i : Incident}
  {health : RolloutHealth}

/-- The incident that is about to be counted is stored as it was probed. -/
theorem Standing.stored_of_probed (standing : Standing e s) {j : Incident}
    (probed : stageOf t s.history = .probed i health) (asking : s.asks? t = some (.update j)) :
    s.store.get? i.id = some i := by
  obtain ⟨task, next, here, asks⟩ := asks?_eq_some asking
  obtain ⟨old, stored, -, change⟩ := standing.change here asks
  rw [change.id] at stored
  rw [probed] at change
  generalize task.operation = op at change
  cases change with
  | counted probes counts => exact stored

/-- Whoever has stored a count holds the lock of the incident's release. -/
def CountsUnderLock (s : System) : Prop :=
  ∀ t i health, stageOf t s.history = .counted i health → held t s.history = some i.releaseKey

theorem countsUnderLock_move (standing : Standing e s) (locked : CountsUnderLock s)
    (move : Move e s t s') : CountsUnderLock s' := by
  intro u i health counted
  by_cases apart : u ≠ t
  · rw [move_stageOf move apart] at counted
    rw [move_held move apart]
    exact locked u i health counted
  · obtain rfl := not_not.1 apart
    have noted : ∀ {what : Happening}, (∀ r a, what ≠ .answered r a) →
        stageOf u (⟨u, what⟩ :: s.history) ≠ .counted i health := by
      intro what leaves
      rw [stageOf_noted leaves]
      exact nofun
    cases move with
    | begun op => exact absurd counted (noted fun _ _ same => nomatch same)
    | queued here asks new => exact locked _ i health counted
    | answered here asks granted served =>
        have after := stageOf_answered.symm.trans counted
        refine held_answered.trans ?_
        rcases Stage.next_eq_counted after with ⟨rfl, j, probed⟩ | ⟨before, same⟩
        · obtain ⟨old, may⟩ : ∃ old, MayUpdate u s.toSituation i old :=
            standing.steady.allowed here asks
          rw [may.evolves.releaseKey]
          exact may.locked
        · rw [same]
          exact locked u i health before
    | ended here finished => exact absurd counted (noted fun _ _ same => nomatch same)
    | stopped here => exact absurd counted (noted fun _ _ same => nomatch same)

theorem countsUnderLock_after (e : Engine) (schedule : List Turn) :
    CountsUnderLock (after e schedule) := by
  refine after_moves (fun _ _ _ counted => nomatch counted) ?_ schedule
  intro earlier t s' locked move
  exact countsUnderLock_move (standing_after e earlier) locked move

/-- The incident whose count was stored is still stored with it. -/
theorem stored_of_counted (e : Engine) (schedule : List Turn)
    (counted : stageOf t (after e schedule).history = .counted i health) :
    (after e schedule).store.get? i.id = some i := by
  have inHand : i ∈ (stageOf t (after e schedule).history).inHand := by
    rw [counted]
    exact List.mem_singleton_self i
  exact ((standing_after e schedule).grounded t).stored i inHand
    (countsUnderLock_after e schedule t i health counted)

theorem asks?_of_task {r : Request} {next : r.Answer → Program Outcome}
    (here : s.tasks t = some task) (asks : task.rest = .ask r next) : s.asks? t = some r := by
  obtain ⟨op, rest, waiting⟩ := task
  cases (show rest = .ask r next from asks)
  simp [asks?, here]

/-- Who is not apart is under way. -/
theorem OnCourse.exists_task (onCourse : OnCourse e s t) (busy : stageOf t s.history ≠ .apart) :
    ∃ task, s.tasks t = some task := by
  cases here : s.tasks t with
  | some task => exact ⟨task, rfl⟩
  | none => exact absurd (onCourse.idle here) busy

theorem OnCourse.asks?_of_probed (onCourse : OnCourse e s t)
    (probed : stageOf t s.history = .probed i health) (well : health.isFailing = .ok false)
    (room : i.resolvedRetryCount.toNat + 1 < UInt32.size) :
    s.asks? t =
      some (.update { i with resolvedRetryCount := i.resolvedRetryCount + 1 }) := by
  obtain ⟨task, here⟩ := onCourse.exists_task (by rw [probed]; exact nofun)
  have follows := onCourse.follows task here
  rw [probed] at follows
  have countable := (Engine.counts_iff_of_healthy well room).2 rfl
  obtain ⟨k, next, asks, counts⟩ := Engine.asks_update_of_probed follows countable
  rw [asks?_of_task here asks, (Engine.counts_iff_of_healthy well room).1 counts]

theorem OnCourse.deed?_of_counted (onCourse : OnCourse e s t)
    (counted : stageOf t s.history = .counted i health) (well : health.isFailing = .ok false) :
    ∃ now, operationOf t s.history = some (.sweep now) ∧
      (s.deed? t = some (.update (i.resolvedAt now)) ↔
        e.settings.retryThreshold ≤ i.resolvedRetryCount) := by
  obtain ⟨task, here⟩ := onCourse.exists_task (by rw [counted]; exact nofun)
  have follows := onCourse.follows task here
  rw [counted] at follows
  have deed : s.deed? t = task.rest.deed? := by rw [System.deed?, here]; rfl
  obtain ⟨now, sweeps, ways⟩ := Engine.deed?_of_counted follows
  refine ⟨now, by rw [onCourse.begun task here, sweeps], ?_⟩
  rw [deed]
  rcases ways with ⟨recovered, resolves⟩ | ⟨ill, release, leaves⟩
  · exact ⟨fun _ => recovered.enough, fun _ => resolves⟩
  · refine ⟨fun resolves => ?_, fun enough => absurd ⟨well, enough⟩ ill⟩
    cases leaves.symm.trans resolves

end Deeds

/-- After every schedule, the count that is stored with an incident is the number of healthy answers
that were stored since the last failing one that was, all of them of probes that may be made. A
sweep that was told of a healthy deployment asks for the count that is stored and one more. Once
that is stored, the sweep resolves the incident exactly when the count is enough; if the store
refuses it, the sweep gives back the lock. -/
theorem healthy_answers_are_counted (e : Engine) (schedule : List Turn) :
    (∀ i ∈ (after e schedule).store.incidents,
      i.resolvedRetryCount.toNat =
        (streak (signals i.id (after e schedule).history)).length ∧
      ∀ p ∈ streak (signals i.id (after e schedule).history), e.Probes p.now p.incident) ∧
    (∀ t i health, stageOf t (after e schedule).history = .probed i health →
      health.isFailing = .ok false → i.resolvedRetryCount.toNat + 1 < UInt32.size →
      (after e schedule).store.get? i.id = some i ∧
        (after e schedule).asks? t =
          some (.update { i with resolvedRetryCount := i.resolvedRetryCount + 1 })) ∧
    (∀ t i health, stageOf t (after e schedule).history = .counted i health →
      health.isFailing = .ok false →
      (after e schedule).store.get? i.id = some i ∧
        ∃ now, operationOf t (after e schedule).history = some (.sweep now) ∧
          ((after e schedule).deed? t = some (.update (i.resolvedAt now)) ↔
            e.settings.retryThreshold ≤ i.resolvedRetryCount)) ∧
    ∀ t now r, operationOf t (after e schedule).history = some (.sweep now) →
      stageOf t (after e schedule).history = .leaving → (after e schedule).asks? t = some r →
      ∃ release, r = .unlock release := by
  have standing := standing_after e schedule
  have tallied := tallied_after e schedule
  refine ⟨?_, ?_, ?_, ?_⟩
  · intro i member
    refine ⟨(tallied.tally i member).count, fun p among => ?_⟩
    exact (tallied.probes i.id p (healthy_of_mem_streak among)).1
  · intro t i health probed well room
    have asking := (standing.onCourse t).asks?_of_probed probed well room
    exact ⟨standing.stored_of_probed probed asking, asking⟩
  · intro t i health counted well
    exact ⟨stored_of_counted e schedule counted,
      (standing.onCourse t).deed?_of_counted counted well⟩
  · intro t now r sweeping leaving asking
    obtain ⟨task, next, here, asks⟩ := asks?_eq_some asking
    have may := (standing.onCourse t).may here asks
    have begun := (standing.onCourse t).begun task here
    rw [sweeping] at begun
    rw [← Option.some.inj begun, leaving] at may
    exact Engine.asks_unlock_of_leaving may

theorem healthy_answers_are_counted_thrice :
    (streak (signals "a" (after Sample.engine healthyThrice).history)).length = 3 ∧
    ∃ (i : Incident) (now : Instant),
      (after Sample.engine healthyThrice).deed? 3 = some (.update (i.resolvedAt now)) ∧
      i.resolvedRetryCount = 3 := by
  obtain ⟨counts, -, decides, -⟩ := healthy_answers_are_counted Sample.engine healthyThrice
  have record : ((after Sample.engine healthyThrice).store.get? "a").map
      (·.resolvedRetryCount) = some 3 := by decide +kernel
  have reached : (stageOf 3 (after Sample.engine healthyThrice).history).counted?.map
      (·.resolvedRetryCount) = some 3 := by decide +kernel
  have heard : (stageOf 3 (after Sample.engine healthyThrice).history).heard?.map
      (·.isFailing) = some (.ok false) := by decide +kernel
  constructor
  · obtain ⟨i, stored, three⟩ := Option.map_eq_some_iff.1 record
    obtain ⟨member, id⟩ := Store.get?_eq_some_iff.1 stored
    have count := (counts i member).1
    rw [id, three] at count
    exact count.symm
  · obtain ⟨i, found, three⟩ := Option.map_eq_some_iff.1 reached
    obtain ⟨health, counted⟩ := Stage.counted_of_counted? found
    rw [counted] at heard
    obtain ⟨-, now, -, resolves⟩ := decides 3 i health counted (Option.some.inj heard)
    refine ⟨i, now, resolves.2 ?_, three⟩
    rw [three]
    decide

end Interleaving

end IncidentWatch

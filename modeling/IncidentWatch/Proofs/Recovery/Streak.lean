import IncidentWatch.Proofs.Course.Records
import IncidentWatch.Proofs.Interleaving.Guarantees

/-!
# Healthy streaks

What the cluster has said about the deployment of an incident is recorded in the history,
with the merges in between (`signals`). The count that is stored with an incident is the
length of its streak: of the healthy answers recorded since the last failing one
(`Tally.count`). A merge does not break the streak, though it changes when the incident
was last seen and may scope it to another deployment. Only of the answers since the last
merge (`fresh`) is it known that they are about the present scope and came after the
buffer window of the last occurrence.

So an incident that is resolved on a healthy answer has a streak of enough answers, but
it has proven its recovery since the last occurrence exactly when those since the last
merge are enough (`recovery_is_proven_iff`).
-/

set_option autoImplicit false

namespace IncidentWatch

namespace Stage

/-- The incident whose count of healthy answers was stored. -/
def counted? : Stage → Option Incident
  | .counted i _ => some i
  | _ => none

/-- What was heard of the workload whose count of healthy answers was stored. -/
def heard? : Stage → Option RolloutHealth
  | .counted _ health => some health
  | _ => none

theorem counted_of_counted? {stage : Stage} {i : Incident} (found : stage.counted? = some i) :
    ∃ health, stage = .counted i health := by
  unfold counted? at found
  split at found
  · rename_i j health
    cases found
    exact ⟨health, rfl⟩
  · cases found

end Stage

namespace Interleaving

open IncidentWatch.Interleaving.System

/-! ## Signals -/

/-- A sweep asked about the deployment of an incident, as the incident was then. -/
structure Probe where
  now : Instant
  incident : Incident

/-- What was recorded about an incident. -/
inductive Signal where
  | healthy (p : Probe)
  | failing
  | merged

/-- What is recorded when an operation writes over an incident, at a stage. -/
def signal? (op : Option Operation) (stage : Stage) : Option Signal :=
  match op, stage with
  | some (.batch _ _), _ => some .merged
  | some (.sweep now), .probed i health =>
    match health.isFailing with
    | .ok false => some (.healthy ⟨now, i⟩)
    | .ok true => some .failing
    | .error _ => none
  | _, _ => none

/-- What was recorded about the incident of an id, latest first. -/
def signals (id : String) : List Entry → List Signal
  | [] => []
  | ⟨t, .answered (.update i) (.ok _)⟩ :: earlier =>
    if i.id = id then
      (signal? (operationOf t earlier) (stageOf t earlier)).toList ++ signals id earlier
    else signals id earlier
  | _ :: earlier => signals id earlier

/-- The healthy answers since the last failing one. -/
def streak : List Signal → List Probe
  | [] => []
  | .healthy p :: earlier => p :: streak earlier
  | .failing :: _ => []
  | .merged :: earlier => streak earlier

/-- The healthy answers since the last failing one and the last merge. -/
def fresh : List Signal → List Probe
  | .healthy p :: earlier => p :: fresh earlier
  | _ => []

theorem fresh_prefix_streak (recorded : List Signal) : fresh recorded <+: streak recorded := by
  induction recorded with
  | nil => exact List.prefix_rfl
  | cons signal earlier inductionHypothesis =>
      cases signal with
      | healthy p => exact List.prefix_cons_inj p |>.2 inductionHypothesis
      | failing => exact List.prefix_rfl
      | merged => exact List.nil_prefix

theorem healthy_of_mem_streak {recorded : List Signal} {p : Probe} (member : p ∈ streak recorded) :
    .healthy p ∈ recorded := by
  induction recorded with
  | nil => cases member
  | cons signal earlier inductionHypothesis =>
      cases signal with
      | healthy q =>
          rcases List.mem_cons.1 member with rfl | before
          · exact List.mem_cons_self
          · exact List.mem_cons_of_mem _ (inductionHypothesis before)
      | failing => cases member
      | merged => exact List.mem_cons_of_mem _ (inductionHypothesis member)

section Signals

variable {t : Nat} {id : String} {earlier : List Entry} {i : Incident}

theorem signals_updated :
    signals i.id (⟨t, .answered (.update i) (.ok ())⟩ :: earlier) =
      (signal? (operationOf t earlier) (stageOf t earlier)).toList ++ signals i.id earlier := by
  simp [signals]

theorem signals_updated_other (other : id ≠ i.id) :
    signals id (⟨t, .answered (.update i) (.ok ())⟩ :: earlier) = signals id earlier := by
  simp [signals, other.symm]

end Signals

/-! ## Tallies -/

/-- The record of an incident keeps the tally of what was recorded about it. -/
structure Tally (i : Incident) (recorded : List Signal) : Prop where
  count : i.resolvedRetryCount.toNat = (streak recorded).length
  aligned : ∀ p ∈ fresh recorded,
    p.incident.involvedObject = i.involvedObject ∧ p.incident.lastSeen = i.lastSeen

variable {e : Engine}

/-- A new incident has nothing to tally. -/
theorem tally_candidate {now : Instant} {events : List Event} {owner : OwnerRef} {i : Incident}
    (isCandidate : e.IsCandidate now events owner i) : Tally i [] := by
  obtain ⟨-, id, ids, object, -, rfl⟩ := isCandidate
  exact ⟨rfl, fun _ member => nomatch member⟩

theorem Tally.of_same {i j : Incident} {recorded : List Signal} (tally : Tally i recorded)
    (count : j.resolvedRetryCount = i.resolvedRetryCount)
    (scope : j.involvedObject = i.involvedObject) (seen : j.lastSeen = i.lastSeen) :
    Tally j recorded := by
  refine ⟨?_, ?_⟩
  · rw [count]
    exact tally.count
  · rw [scope, seen]
    exact tally.aligned

/-- Every change of a record keeps the tally. -/
theorem Tally.change {op : Operation} {stage : Stage} {i j : Incident} {recorded : List Signal}
    (tally : Tally i recorded) (change : e.Change op stage i j) :
    Tally j ((signal? (some op) stage).toList ++ recorded) := by
  cases change with
  | merged among isCandidate =>
      obtain ⟨scope, same⟩ := i.merge_eq _ _ _
      rw [same]
      -- The count stays, and no answer is fresh any more.
      exact ⟨tally.count, fun _ member => nomatch member⟩
  | counted probes counts =>
      cases counts with
      | failing ill =>
          simp only [signal?, ill]
          exact ⟨rfl, fun _ member => nomatch member⟩
      | healthy well retries counted =>
          simp only [signal?, well]
          refine ⟨?_, ?_⟩
          · show retries.toNat = (streak recorded).length + 1
            rw [counted, tally.count]
          · intro p member
            rcases List.mem_cons.1 member with rfl | before
            · exact ⟨rfl, rfl⟩
            · exact tally.aligned p before
  | settled spared quiet => exact tally.of_same rfl rfl rfl
  | recovered probes recovered => exact tally.of_same rfl rfl rfl
  | givenUp quiet => exact tally.of_same rfl rfl rfl
  | marked => exact tally.of_same rfl rfl rfl

/-- What is recorded as healthy was asked when it may be. -/
theorem probes_of_change {op : Operation} {stage : Stage} {i j : Incident} {p : Probe}
    (change : e.Change op stage i j) (signal : signal? (some op) stage = some (.healthy p)) :
    e.Probes p.now p.incident ∧ p.incident.id = j.id := by
  rw [change.id]
  cases change with
  | @counted now i j health probes counts =>
      simp only [signal?] at signal
      split at signal
      · cases signal
        exact ⟨probes, rfl⟩
      · cases signal
      · cases signal
  | _ => cases signal

/-- Whatever was recorded is tallied. -/
structure Tallied (e : Engine) (s : Situation) : Prop where
  tally : ∀ i ∈ s.store.incidents, Tally i (signals i.id s.history)
  probes : ∀ id p, .healthy p ∈ signals id s.history →
    e.Probes p.now p.incident ∧ p.incident.id = id
  known : ∀ id, s.store.get? id = none → signals id s.history = []

namespace Tallied

variable {s s' : System} {t : Nat} {task : Task}

/-- What leaves the store and the signals alone leaves the tally. -/
theorem of_same {s s' : Situation} (tallied : Tallied e s) (store : s'.store = s.store)
    (same : ∀ id, signals id s'.history = signals id s.history) : Tallied e s' := by
  refine ⟨?_, ?_, ?_⟩
  · intro i
    rw [store, same]
    exact tallied.tally i
  · intro id p
    rw [same]
    exact tallied.probes id p
  · intro id
    rw [store, same]
    exact tallied.known id

theorem created {i : Incident} {store : Store} (tallied : Tallied e s.toSituation)
    (created : s.store.create i = .ok store) {now : Instant} {events : List Event}
    {owner : OwnerRef} (isCandidate : e.IsCandidate now events owner i) :
    Tallied e (s.answered t (.create i) (.ok ()) store) := by
  have same : ∀ id, signals id (s.answered t (.create i) (.ok ()) store).history =
      signals id s.history := fun id => rfl
  refine ⟨?_, ?_, ?_⟩
  · refine Store.forall_create created ?_ ?_
    · rw [same, tallied.known i.id (Store.get?_of_create created)]
      exact tally_candidate isCandidate
    · intro j member
      rw [same]
      exact tallied.tally j member
  · intro id p
    rw [same]
    exact tallied.probes id p
  · intro id absent
    rw [same]
    exact tallied.known id (Store.absent_of_create created absent)

theorem updated {i j : Incident} {op : Operation} {store : Store}
    (tallied : Tallied e s.toSituation) (stored : s.store.get? j.id = some i)
    (updated : s.store.update j = .ok store)
    (begun : operationOf t s.history = some op)
    (change : e.Change op (stageOf t s.history) i j) :
    Tallied e (s.answered t (.update j) (.ok ()) store) := by
  have here : signals j.id (s.answered t (.update j) (.ok ()) store).history =
      (signal? (some op) (stageOf t s.history)).toList ++ signals j.id s.history := by
    rw [← begun]
    exact signals_updated
  have away : ∀ id, id ≠ j.id → signals id (s.answered t (.update j) (.ok ()) store).history =
      signals id s.history := fun id other => signals_updated_other other
  refine ⟨?_, ?_, ?_⟩
  · refine Store.forall_update updated ?_ ?_
    · rw [here]
      have before := tallied.tally i (Store.get?_eq_some_iff.1 stored).1
      rw [← change.id] at before
      exact before.change change
    · intro k member other
      rw [away k.id other]
      exact tallied.tally k member
  · intro id p member
    by_cases same : id = j.id
    · subst same
      rw [here] at member
      rcases List.mem_append.1 member with new | before
      · exact probes_of_change change (Option.mem_toList.1 new)
      · exact tallied.probes j.id p before
    · rw [away id same] at member
      exact tallied.probes id p member
  · intro id absent
    obtain ⟨absentBefore, other⟩ := Store.absent_of_update updated absent
    rw [away id other]
    exact tallied.known id absentBefore

/-- An answer keeps what is recorded tallied. -/
theorem answered (tallied : Tallied e s.toSituation) (standing : Standing e s)
    {r : Request} {next : r.Answer → Program Outcome} {c : Collaborators} {a : r.Answer}
    {store : Store} (here : s.tasks t = some task) (asks : task.rest = .ask r next)
    (served : serve c s.store r = some (a, store)) : Tallied e (s.answered t r a store) := by
  have may := (standing.onCourse t).may here asks
  cases r with
  | create i =>
      rcases serve_create served with ⟨rfl, created⟩ | ⟨error, rfl, rfl⟩
      · obtain ⟨events, now, -, owner, isCandidate⟩ := Engine.candidate_of_may may
        exact tallied.created created isCandidate
      · exact tallied.of_same rfl fun id => rfl
  | update j =>
      rcases serve_update served with ⟨rfl, updated⟩ | ⟨error, rfl, rfl⟩
      · obtain ⟨i, stored, -, change⟩ := standing.change here asks
        exact tallied.updated stored updated ((standing.onCourse t).begun task here) change
      · exact tallied.of_same rfl fun id => rfl
  | _ =>
      have same := store_of_reads served (fun _ => nofun) (fun _ => nofun)
      exact tallied.of_same same fun id => rfl

theorem move (tallied : Tallied e s.toSituation) (standing : Standing e s) (move : Move e s t s') :
    Tallied e s'.toSituation := by
  cases move with
  | begun op => exact tallied.of_same rfl fun id => rfl
  | queued here asks new => exact tallied
  | answered here asks granted served => exact tallied.answered standing here asks served
  | ended here finished => exact tallied.of_same rfl fun id => rfl
  | stopped here => exact tallied.of_same rfl fun id => rfl

end Tallied

/-- Whatever was recorded is tallied after every schedule. -/
theorem tallied_after (e : Engine) (schedule : List Turn) :
    Tallied e (after e schedule).toSituation := by
  refine after_moves (P := fun s => Tallied e s.toSituation) ?_ ?_ schedule
  · refine ⟨?_, ?_, fun _ _ => rfl⟩
    · intro i member
      cases member
    · intro id p member
      cases member
  · intro earlier t s' tallied move
    exact tallied.move (standing_after e earlier) move

/-! ## Recovery -/

/-- The healthy answers recorded last about an incident are enough, all of them about its present
scope, and in sweeps after the buffer window of its last occurrence; nothing else was recorded in
between. -/
def ProvenSince (e : Engine) (i : Incident) (recorded : List Signal) : Prop :=
  ∃ n, e.settings.retryThreshold.toNat ≤ n ∧ n ≤ recorded.length ∧
    ∀ signal ∈ recorded.take n, ∃ p, signal = .healthy p ∧
      p.incident.involvedObject = i.involvedObject ∧
      Engine.QuietFor p.now i e.settings.bufferWindow

/-- As many of the latest signals are healthy as there are fresh answers. -/
theorem take_length_fresh (recorded : List Signal) :
    recorded.take (fresh recorded).length = (fresh recorded).map .healthy := by
  induction recorded with
  | nil => rfl
  | cons signal earlier inductionHypothesis =>
      cases signal with
      | healthy p => exact congrArg (Signal.healthy p :: ·) inductionHypothesis
      | failing => rfl
      | merged => rfl

theorem le_length_fresh {recorded : List Signal} {n : Nat} (within : n ≤ recorded.length)
    (healthy : ∀ signal ∈ recorded.take n, ∃ p, signal = .healthy p) :
    n ≤ (fresh recorded).length := by
  induction recorded generalizing n with
  | nil => exact within
  | cons signal earlier inductionHypothesis =>
      cases n with
      | zero => exact Nat.zero_le _
      | succ n =>
          obtain ⟨p, rfl⟩ := healthy signal List.mem_cons_self
          refine Nat.succ_le_succ (inductionHypothesis (Nat.le_of_succ_le_succ within) ?_)
          exact fun other member => healthy other (List.mem_cons_of_mem _ member)

/-- An incident has proven its recovery exactly when the fresh answers are enough. -/
theorem provenSince_iff {i : Incident} {recorded : List Signal} (tally : Tally i recorded)
    (probes : ∀ p, .healthy p ∈ recorded → e.Probes p.now p.incident) :
    ProvenSince e i recorded ↔ e.settings.retryThreshold.toNat ≤ (fresh recorded).length := by
  constructor
  · rintro ⟨n, enough, within, healthy⟩
    refine Nat.le_trans enough (le_length_fresh within fun signal member => ?_)
    obtain ⟨p, same, -⟩ := healthy signal member
    exact ⟨p, same⟩
  · intro enough
    have all := (fresh_prefix_streak recorded).length_le
    refine ⟨(fresh recorded).length, enough, ?_, ?_⟩
    · have same := congrArg List.length (take_length_fresh recorded)
      rw [List.length_take, List.length_map] at same
      omega
    · intro signal member
      rw [take_length_fresh] at member
      obtain ⟨p, among, rfl⟩ := List.mem_map.1 member
      obtain ⟨scope, seen⟩ := tally.aligned p among
      refine ⟨p, rfl, scope, ?_⟩
      have asked := healthy_of_mem_streak ((fresh_prefix_streak recorded).subset among)
      have quiet := (probes p asked).quiet
      unfold Engine.QuietFor at quiet ⊢
      rw [← seen]
      exact quiet

/-- Whoever was told of the health of a deployment asks for its record next. An incident is resolved
on a healthy answer when the answers recorded since the last failing one are enough, each of them
after the buffer window of its time; those are answers since the last occurrence, about the present
scope, exactly when the answers since the last merge are enough by themselves. -/
theorem recovery_is_proven_iff (e : Engine) (schedule : List Turn) (t : Nat) (i j : Incident)
    (health : RolloutHealth) (updating : (after e schedule).updating? t = some j)
    (counted : stageOf t (after e schedule).history = .counted i health) :
    (∃ now, operationOf t (after e schedule).history = some (.sweep now) ∧
      j = i.resolvedAt now ∧ i.involvedObject.kind = .deployment ∧ i.severity = .critical ∧
      health.isFailing = .ok false) ∧
    (after e schedule).store.get? i.id = some i ∧
    e.settings.retryThreshold.toNat ≤
      (streak (signals i.id (after e schedule).history)).length ∧
    (∀ p ∈ streak (signals i.id (after e schedule).history), e.Probes p.now p.incident) ∧
    (ProvenSince e i (signals i.id (after e schedule).history) ↔
      e.settings.retryThreshold.toNat ≤
        (fresh (signals i.id (after e schedule).history)).length) ∧
    ∀ u k answer r, stageOf u (after e schedule).history = .probed k answer →
      (after e schedule).asks? u = some r → ∃ l, r = .update l ∧ Engine.Counts k answer l := by
  have standing := standing_after e schedule
  have tallied := tallied_after e schedule
  obtain ⟨task, next, here, asks⟩ := updating?_eq_some updating
  obtain ⟨old, stored, -, change⟩ := standing.change here asks
  rw [counted] at change
  have begun := (standing.onCourse t).begun task here
  generalize task.operation = op at change begun
  cases change with
  | @recovered now _ _ probes recovered =>
      have tally := tallied.tally i (Store.get?_eq_some_iff.1 stored).1
      have asked : ∀ p, .healthy p ∈ signals i.id (after e schedule).history →
          e.Probes p.now p.incident := fun p member => (tallied.probes i.id p member).1
      refine ⟨⟨now, begun, rfl, probes.deployment, probes.critical, recovered.healthy⟩, stored, ?_,
        ?_, ?_, ?_⟩
      · rw [← tally.count]
        exact recovered.enough
      · exact fun p member => asked p (healthy_of_mem_streak member)
      · exact provenSince_iff tally asked
      · intro u k answer r probed asking
        obtain ⟨task', next', here', asks'⟩ := asks?_eq_some asking
        have may := (standing.onCourse u).may here' asks'
        rw [probed] at may
        exact Engine.counts_of_may may

/-- A deployment fails, and an incident of it is created; then two sweeps find the deployment
healthy. -/
def healthyTwice : List Turn :=
  Sample.runningWith (Sample.deployed 0 "a") 0 (.batch [Sample.event "web-0" "OOMKilled"] .epoch) 15
    ++ Sample.runningWith (Sample.deployed 2 "") 1 (.sweep (Sample.afterSeconds 360)) 20
    ++ Sample.runningWith (Sample.deployed 2 "") 2 (.sweep (Sample.afterSeconds 420)) 12

/-- A third sweep finds the deployment healthy, and is about to resolve the incident. -/
def healthyThrice : List Turn :=
  healthyTwice ++ Sample.runningWith (Sample.deployed 2 "") 3 (.sweep (Sample.afterSeconds 480)) 7

theorem recovery_is_proven_iff_thrice :
    ∃ i j health, (after Sample.engine healthyThrice).updating? 3 = some j ∧
      stageOf 3 (after Sample.engine healthyThrice).history = .counted i health ∧
      i.id = "a" ∧ j.status = .resolved ∧
      ProvenSince Sample.engine i (signals i.id (after Sample.engine healthyThrice).history) := by
  have about : (stageOf 3 (after Sample.engine healthyThrice).history).counted?.map (·.id) =
      some "a" := by decide +kernel
  have writes : ((after Sample.engine healthyThrice).updating? 3).map (·.status) =
      some .resolved := by decide +kernel
  have three : (fresh (signals "a" (after Sample.engine healthyThrice).history)).length = 3 := by
    decide +kernel
  obtain ⟨j, updating, resolved⟩ := Option.map_eq_some_iff.1 writes
  obtain ⟨i, found, id⟩ := Option.map_eq_some_iff.1 about
  obtain ⟨health, counted⟩ := Stage.counted_of_counted? found
  obtain ⟨-, -, -, -, proven, -⟩ :=
    recovery_is_proven_iff Sample.engine healthyThrice 3 i j health updating counted
  rw [id] at proven
  refine ⟨i, j, health, updating, counted, id, resolved, ?_⟩
  rw [id, proven, three]
  decide

/-- Before the third sweep, another pod of the deployment fails and is merged. -/
def healthyAroundMerge : List Turn :=
  healthyTwice
    ++ Sample.runningWith (Sample.deployed 2 "b") 3
      (.batch [Sample.event "web-1" "OOMKilled"] (Sample.afterSeconds 480)) 16
    ++ Sample.runningWith (Sample.deployed 2 "") 4 (.sweep (Sample.afterSeconds 840)) 7

/-- One healthy answer after the last occurrence resolves an incident that had two before it. -/
theorem merge_keeps_the_streak :
    ∃ i j health, (after Sample.engine healthyAroundMerge).updating? 4 = some j ∧
      stageOf 4 (after Sample.engine healthyAroundMerge).history = .counted i health ∧
      i.lastSeen = Sample.afterSeconds 480 ∧ j.status = .resolved ∧
      ¬ ProvenSince Sample.engine i
        (signals i.id (after Sample.engine healthyAroundMerge).history) := by
  have about : (stageOf 4 (after Sample.engine healthyAroundMerge).history).counted?.map
      (fun i => (i.id, i.lastSeen)) = some ("a", Sample.afterSeconds 480) := by decide +kernel
  have writes : ((after Sample.engine healthyAroundMerge).updating? 4).map (·.status) =
      some .resolved := by decide +kernel
  have one : (fresh (signals "a" (after Sample.engine healthyAroundMerge).history)).length = 1 := by
    decide +kernel
  obtain ⟨j, updating, resolved⟩ := Option.map_eq_some_iff.1 writes
  obtain ⟨i, found, same⟩ := Option.map_eq_some_iff.1 about
  obtain ⟨id, seen⟩ := Prod.mk.inj same
  obtain ⟨health, counted⟩ := Stage.counted_of_counted? found
  refine ⟨i, j, health, updating, counted, seen, resolved, ?_⟩
  rintro ⟨n, enough, within, healthy⟩
  rw [id] at within healthy
  have few := le_length_fresh within fun signal member => by
    obtain ⟨p, same, -⟩ := healthy signal member
    exact ⟨p, same⟩
  rw [one] at few
  exact absurd (Nat.le_trans enough few) (by decide)

end Interleaving

end IncidentWatch

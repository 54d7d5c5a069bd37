import IncidentWatch.Proofs.Interleaving.Conduct
import IncidentWatch.Proofs.Interleaving.Sample

/-!
# What holds after every schedule

Whatever the schedule, and whatever the collaborators answer: no update is lost
(`no_update_is_lost`), no two active incidents of a release have the same first primary
cause (`active_causes_are_distinct`), a resolved incident stays as it is but for the
mark of its last alert (`resolution_is_final`), and occurrences are of distinct keys and
stay in their places (`occurrences_stay`). Schedules cut operations off at any turn, and
the store refuses what it likes.
-/

set_option autoImplicit false

namespace IncidentWatch.Interleaving

open IncidentWatch.Interleaving.System

/-- A turn keeps the records of a store in their places, evolved. -/
theorem grows_step {e : Engine} {s : System} (steady : Steady (custody e) s) (turn : Turn) :
    s.store.Evolves (step e s turn).store := by
  rcases step_cases e s turn with same | ⟨t, move⟩
  · rw [same]
    exact .refl s.store
  · have meanwhile : Meanwhile (t + 1) s.toSituation (step e s turn).toSituation :=
      steady.rely_move move (Nat.succ_ne_self t)
    exact meanwhile.grows

/-- Along a schedule, a store only grows. -/
theorem grows_after (e : Engine) (schedule later : List Turn) :
    (after e schedule).store.Evolves (after e (schedule ++ later)).store := by
  induction later using List.reverseRecOn with
  | nil =>
      rw [List.append_nil]
      exact .refl _
  | append_singleton earlier turn inductionHypothesis =>
      rw [← List.append_assoc, after_append e (schedule ++ earlier)]
      exact inductionHypothesis.trans
        (grows_step (steady_custody e (schedule ++ earlier)) turn)

theorem updating?_eq_some {s : System} {t : Nat} {i : Incident}
    (updating : s.updating? t = some i) :
    ∃ task next, s.tasks t = some task ∧ task.rest = .ask (.update i) next := by
  unfold updating? at updating
  split at updating
  · rename_i op j next waiting here
    cases updating
    exact ⟨_, next, here, rfl⟩
  · cases updating

theorem mem_finishedBatches {history : List Entry} {events : List Event} {outcome : BatchOutcome}
    (finished : (events, outcome) ∈ finishedBatches history) :
    ∃ t now, (⟨t, .ended (.batch events now) (.batch (.ok outcome))⟩ : Entry) ∈ history := by
  obtain ⟨⟨t, what⟩, member, read⟩ := List.mem_filterMap.1 finished
  dsimp only at read
  split at read
  · rename_i events' now outcome'
    cases read
    exact ⟨t, now, member⟩
  · cases read

/-! ## Updates -/

/-- Whoever is about to update an incident holds the lock of its release, and the stored record is
the one that it last read or wrote under that lock. So what a finished batch was filed under keeps
the keys of all its events. -/
theorem no_update_is_lost (e : Engine) (schedule later : List Turn) :
    (∀ t i, (after e schedule).updating? t = some i → ∃ old,
      (after e schedule).locks.HoldsFor t old.releaseKey ∧
        held t (after e schedule).history = some old.releaseKey ∧
        lastKnown t i.id (after e schedule).history = some old ∧
        (after e schedule).store.get? i.id = some old) ∧
      ∀ events outcome id, (events, outcome) ∈ finishedBatches (after e schedule).history →
        filedUnder outcome = some id → ∃ i,
          (after e (schedule ++ later)).store.get? id = some i ∧
            ∀ c ∈ e.classified (Engine.counting events), c.key ∈ i.keys := by
  have steady := steady_custody e schedule
  constructor
  · intro t i updating
    obtain ⟨task, next, here, asks⟩ := updating?_eq_some updating
    obtain ⟨old, may⟩ : ∃ old, MayUpdate t (after e schedule).toSituation i old :=
      steady.allowed here asks
    exact ⟨old, (steady.inOrder t).holding _ may.locked, may.locked, may.known, may.stored⟩
  · intro events outcome id finished filed
    obtain ⟨t, now, member⟩ := mem_finishedBatches finished
    have consistent : Consistent e (after e schedule).toSituation := steady.inv
    have keeps := consistent.filed t _ _ member id filed
    obtain ⟨i, stored, keys⟩ := keeps.of_evolves (grows_after e schedule later)
    exact ⟨i, stored, fun c recognized => keys c.key (List.mem_map_of_mem recognized)⟩

/-- An alert is under delivery when a second batch is merged; then its mark is about to be
stored. -/
def mergedWhileAlerting : List Turn :=
  Sample.running 0 (.batch [Sample.event "web-0" "OOMKilled"] .epoch) "a" 14
    ++ Sample.running 1 (.sweep .epoch) "" 5
    ++ Sample.running 2 (.batch [Sample.event "web-1" "OOMKilled"] .epoch) "b" 15
    ++ Sample.going 1 "" 4

theorem no_update_is_lost_while_alerting :
    ([Sample.event "web-1" "OOMKilled"], .merged "a") ∈
        finishedBatches (after Sample.engine mergedWhileAlerting).history ∧
      (∃ i old, (after Sample.engine mergedWhileAlerting).updating? 1 = some i ∧
        i.events.length = 2 ∧
        (after Sample.engine mergedWhileAlerting).store.get? i.id = some old) ∧
      ∃ i, (after Sample.engine (mergedWhileAlerting ++ Sample.going 1 "" 1)).store.get? "a" =
          some i ∧
        ∀ c ∈ Sample.engine.classified (Engine.counting [Sample.event "web-1" "OOMKilled"]),
          c.key ∈ i.keys := by
  have lost := no_update_is_lost Sample.engine mergedWhileAlerting (Sample.going 1 "" 1)
  have finished : ([Sample.event "web-1" "OOMKilled"], BatchOutcome.merged "a") ∈
      finishedBatches (after Sample.engine mergedWhileAlerting).history := by decide +kernel
  have updates : ((after Sample.engine mergedWhileAlerting).updating? 1).map (·.events.length) =
      some 2 := by decide +kernel
  obtain ⟨i, updating, two⟩ := Option.map_eq_some_iff.1 updates
  obtain ⟨old, -, -, -, stored⟩ := lost.1 1 i updating
  exact ⟨finished, ⟨i, old, updating, two, stored⟩, lost.2 _ _ "a" finished rfl⟩

/-! ## Causes -/

/-- Of two active incidents of a release, if the one has a primary cause, the first primary cause of
the other is not the same. -/
theorem active_causes_are_distinct (e : Engine) (schedule : List Turn) (i j : Incident)
    (storedI : i ∈ (after e schedule).store.incidents)
    (storedJ : j ∈ (after e schedule).store.incidents) (distinct : i ≠ j)
    (activeI : i.status = .active) (activeJ : j.status = .active)
    (sameName : i.releaseName = j.releaseName)
    (sameNamespace : i.releaseNamespace = j.releaseNamespace)
    (causeI : i.primaryCause.isSome = true) : i.primaryCause ≠ j.primaryCause := by
  have consistent : Consistent e (after e schedule).toSituation := (steady_custody e schedule).inv
  have sameRelease : i.releaseKey = j.releaseKey := by
    unfold Incident.releaseKey
    rw [sameName, sameNamespace]
  obtain ⟨cause, first⟩ := Option.isSome_iff_exists.1 causeI
  intro same
  exact consistent.deduplicated i storedI j storedJ distinct activeI activeJ sameRelease cause first
    (same.symm.trans first)

/-- Two batches of one release, of different causes, and a sweep that is cut off under the lock. -/
def twoCauses : List Turn :=
  Sample.running 0 (.batch [Sample.event "web-0" "OOMKilled"] .epoch) "a" 14
    ++ Sample.running 1 (.sweep .epoch) "" 3 ++ [.stop 1]
    ++ Sample.running 2 (.batch [Sample.event "web-0" "BackOff"] .epoch) "b" 14

theorem active_causes_are_distinct_of_two :
    ∃ i j, (after Sample.engine twoCauses).store.get? "a" = some i ∧
      (after Sample.engine twoCauses).store.get? "b" = some j ∧
      i.status = .active ∧ j.status = .active ∧ i.releaseKey = j.releaseKey ∧
      i.primaryCause = some "out of memory" ∧ i.primaryCause ≠ j.primaryCause := by
  have first : ((after Sample.engine twoCauses).store.get? "a").map
      (fun i => (i.id, i.status, i.releaseName, i.releaseNamespace, i.primaryCause)) =
        some ("a", .active, "web", "default", some "out of memory") := by decide +kernel
  have second : ((after Sample.engine twoCauses).store.get? "b").map
      (fun j => (j.id, j.status, j.releaseName, j.releaseNamespace)) =
        some ("b", .active, "web", "default") := by decide +kernel
  obtain ⟨i, storedI, fieldsI⟩ := Option.map_eq_some_iff.1 first
  obtain ⟨j, storedJ, fieldsJ⟩ := Option.map_eq_some_iff.1 second
  simp only [Prod.mk.injEq] at fieldsI fieldsJ
  obtain ⟨idI, activeI, nameI, namespaceI, causeI⟩ := fieldsI
  obtain ⟨idJ, activeJ, nameJ, namespaceJ⟩ := fieldsJ
  have apart : i ≠ j := by
    rintro rfl
    exact absurd (idI.symm.trans idJ) (by decide)
  have sameName := nameI.trans nameJ.symm
  have sameNamespace := namespaceI.trans namespaceJ.symm
  refine ⟨i, j, storedI, storedJ, activeI, activeJ, ?_, causeI, ?_⟩
  · rw [Incident.releaseKey, Incident.releaseKey, sameName, sameNamespace]
  · exact active_causes_are_distinct Sample.engine twoCauses i j
      (Store.get?_eq_some_iff.1 storedI).1 (Store.get?_eq_some_iff.1 storedJ).1 apart activeI
      activeJ sameName sameNamespace (by rw [causeI]; rfl)

/-! ## Resolution -/

/-- A stored incident has the time of its resolution exactly when it is resolved. It stays in the
store with its id, release, chart, severity and the instant of its creation, and once it is
resolved, with all it has but the mark of its last alert. -/
theorem resolution_is_final (e : Engine) (schedule later : List Turn) (i : Incident)
    (stored : i ∈ (after e schedule).store.incidents) :
    (i.resolvedTime.isSome = true ↔ i.status = .resolved) ∧
      ∃ j, (after e (schedule ++ later)).store.get? i.id = some j ∧
        (j.id = i.id ∧ j.releaseName = i.releaseName ∧ j.releaseNamespace = i.releaseNamespace ∧
          j.chartName = i.chartName ∧ j.severity = i.severity ∧ j.createdAt = i.createdAt) ∧
        (i.status = .resolved → j = { i with lastAlerted := j.lastAlerted }) := by
  have consistent : Consistent e (after e schedule).toSituation := (steady_custody e schedule).inv
  refine ⟨(consistent.sound i stored).resolvedTime, ?_⟩
  obtain ⟨j, later', evolves⟩ := (grows_after e schedule later).get? (Store.get?_of_mem stored)
  exact ⟨j, later', ⟨evolves.id, evolves.releaseName, evolves.releaseNamespace, evolves.chartName,
    evolves.severity, evolves.createdAt⟩, evolves.resolved⟩

/-- A sweep has resolved an incident and is about to deliver the alert of it. -/
def resolvedBySweep : List Turn :=
  Sample.running 0 (.batch [Sample.event "web-0" "OOMKilled"] .epoch) "a" 14
    ++ Sample.running 1 (.sweep Sample.settled) "" 8

theorem resolution_is_final_under_alert :
    ∃ i j, (after Sample.engine resolvedBySweep).store.get? "a" = some i ∧
      i.status = .resolved ∧ i.lastAlerted = none ∧
      (after Sample.engine (resolvedBySweep ++ Sample.going 1 "" 12)).store.get? "a" = some j ∧
      j.lastAlerted = some Sample.settled ∧ j = { i with lastAlerted := some Sample.settled } := by
  have before : ((after Sample.engine resolvedBySweep).store.get? "a").map
      (fun i => (i.id, i.status, i.lastAlerted)) = some ("a", .resolved, none) := by decide +kernel
  have marked : ((after Sample.engine (resolvedBySweep ++ Sample.going 1 "" 12)).store.get? "a").map
      (·.lastAlerted) = some (some Sample.settled) := by decide +kernel
  obtain ⟨i, stored, fields⟩ := Option.map_eq_some_iff.1 before
  obtain ⟨j, storedLater, mark⟩ := Option.map_eq_some_iff.1 marked
  simp only [Prod.mk.injEq] at fields
  obtain ⟨id, closed, unmarked⟩ := fields
  obtain ⟨-, j', stored', -, final⟩ := resolution_is_final Sample.engine resolvedBySweep
    (Sample.going 1 "" 12) i (Store.get?_eq_some_iff.1 stored).1
  rw [id, storedLater] at stored'
  cases stored'
  exact ⟨i, j, stored, closed, unmarked, storedLater, mark, mark ▸ final closed⟩

/-! ## Occurrences -/

/-- A stored incident has occurrences of its own, of distinct keys, and it never loses one of them:
whatever happens later, their ids, keys and revisions stand in the same order before those of
whatever is added. -/
theorem occurrences_stay (e : Engine) (schedule later : List Turn) (i : Incident)
    (stored : i ∈ (after e schedule).store.incidents) :
    i.events ≠ [] ∧ (i.events.map (·.key)).Nodup ∧ (∀ o ∈ i.events, o.incidentId = i.id) ∧
      ∃ j, (after e (schedule ++ later)).store.get? i.id = some j ∧
        (i.events.map fun o => (o.id, o.key, o.helmRevision)) <+:
          j.events.map fun o => (o.id, o.key, o.helmRevision) := by
  have consistent : Consistent e (after e schedule).toSituation := (steady_custody e schedule).inv
  have sound := consistent.sound i stored
  obtain ⟨j, found, evolves⟩ := (grows_after e schedule later).get? (Store.get?_of_mem stored)
  exact ⟨sound.events_ne, sound.keys_nodup, sound.owned, j, found, evolves.identities⟩

/-- An alert is under delivery when a second batch is merged, and is marked after that. -/
theorem occurrences_stay_while_merging :
    ∃ i j, (after Sample.engine (mergedWhileAlerting.take 21)).store.get? "a" = some i ∧
      (after Sample.engine mergedWhileAlerting).store.get? "a" = some j ∧
      i.events.length = 1 ∧ j.events.length = 2 ∧
      (j.events.map (·.key)).Nodup ∧
      (i.events.map fun o => (o.id, o.key, o.helmRevision)) <+:
        j.events.map fun o => (o.id, o.key, o.helmRevision) := by
  have before : ((after Sample.engine (mergedWhileAlerting.take 21)).store.get? "a").map
      (fun i => (i.id, i.events.length)) = some ("a", 1) := by decide +kernel
  have merged : ((after Sample.engine mergedWhileAlerting).store.get? "a").map
      (·.events.length) = some 2 := by decide +kernel
  obtain ⟨i, stored, fields⟩ := Option.map_eq_some_iff.1 before
  obtain ⟨j, storedLater, two⟩ := Option.map_eq_some_iff.1 merged
  simp only [Prod.mk.injEq] at fields
  obtain ⟨id, one⟩ := fields
  have kept := occurrences_stay Sample.engine (mergedWhileAlerting.take 21)
    (mergedWhileAlerting.drop 21) i (Store.get?_eq_some_iff.1 stored).1
  have distinct := occurrences_stay Sample.engine mergedWhileAlerting [] j
    (Store.get?_eq_some_iff.1 storedLater).1
  obtain ⟨-, -, -, j', found, grown⟩ := kept
  rw [List.take_append_drop, id, storedLater] at found
  cases found
  exact ⟨i, j, stored, storedLater, one, two, distinct.2.1, grown⟩

end IncidentWatch.Interleaving

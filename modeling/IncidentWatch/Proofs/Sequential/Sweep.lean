import IncidentWatch.Proofs.Course.Sweep
import IncidentWatch.Proofs.Interleaving.Sample
import IncidentWatch.Proofs.Sequential.Undisturbed

/-!
# A sweep, incident by incident

A sweep that nobody disturbs makes of each active incident what the time, the record and the
answer about its deployment say (`Engine.Swept`), and leaves the others as they are. While it
deals with one incident it writes that one only (`Store.Rewrites`), so it finds each later one
as it was listed, and what it makes of it has nothing to do with the ones before. The
notifier may deliver or not: that decides about the mark of the last announcement and
about nothing else.
-/

set_option autoImplicit false

namespace IncidentWatch

/-! ## Writing one incident -/

/-- Of all records, only the one of an id was replaced. -/
structure Store.Rewrites (s s' : Store) (id : String) (i : Incident) : Prop where
  ids : s'.incidents.map (·.id) = s.incidents.map (·.id)
  here : s'.get? id = some i
  others : ∀ other, other ≠ id → s'.get? other = s.get? other

namespace Store.Rewrites

variable {s s' s'' : Store} {id : String} {i j : Incident}

theorem refl (stored : s.get? id = some i) : s.Rewrites s id i :=
  ⟨rfl, stored, fun _ _ => rfl⟩

theorem trans (first : s.Rewrites s' id i) (second : s'.Rewrites s'' id j) :
    s.Rewrites s'' id j :=
  ⟨second.ids.trans first.ids, second.here,
    fun other apart => (second.others other apart).trans (first.others other apart)⟩

theorem of_update (updated : s.update i = .ok s') : s.Rewrites s' i.id i := by
  refine ⟨ids_of_update updated, ?_, fun other apart => ?_⟩
  · rw [get?_update updated, if_pos rfl]
  · rw [get?_update updated, if_neg apart]

end Store.Rewrites

namespace Engine

/-! ## What a sweep makes of an incident -/

section Specification

variable (e : Engine) (now : Instant)
  (health : String → String → Except QueryError RolloutHealth)

/-- The deployment that an incident is about, by namespace and name. -/
def deploymentOf (i : Incident) : String × String :=
  (i.involvedObject.namespaceName, i.involvedObject.name)

/-- The deployment of an incident is known to be failing, or not to be. -/
def IsFailing (i : Incident) (failing : Bool) : Prop :=
  ∃ h, health i.involvedObject.namespaceName i.involvedObject.name = .ok h ∧
    h.isFailing = .ok failing

/-- The deployment of an incident cannot be asked about. -/
def IsUnavailable (i : Incident) : Prop :=
  ∃ error, health i.involvedObject.namespaceName i.involvedObject.name = .error error

/-- An incident is to be resolved: after the longer quiet, if it is not a critical one of a
deployment; else after the shorter one, when its deployment is healthy and has been so often enough; or
after both, when its deployment cannot be asked about. -/
inductive Settles (i : Incident) : Prop
  | settled (spared : ¬ (i.involvedObject.kind = .deployment ∧ i.severity = .critical))
      (quiet : QuietFor now i e.settings.settleAfter)
  | recovered (probes : e.Probes now i) (healthy : IsFailing health i false)
      (enough : e.settings.retryThreshold.toNat ≤ i.resolvedRetryCount.toNat + 1)
  | givenUp (probes : e.Probes now i) (quiet : QuietFor now i e.settings.settleAfter)
      (unavailable : IsUnavailable health i)

/-- The count of healthy answers after a sweep. -/
structure Recounts (i : Incident) (count : UInt32) : Prop where
  failing : e.Probes now i → IsFailing health i true → count = 0
  healthy : e.Probes now i → IsFailing health i false →
    count.toNat = i.resolvedRetryCount.toNat + 1
  unavailable : e.Probes now i → IsUnavailable health i → count = i.resolvedRetryCount
  unprobed : ¬ e.Probes now i → count = i.resolvedRetryCount

/-- The record of an active incident after a sweep. -/
structure Swept (i j : Incident) : Prop where
  resolved : j.status = .resolved ↔ e.Settles now health i
  resolvedTime : e.Settles now health i → j.resolvedTime = some now
  unresolved : ¬ e.Settles now health i → j.resolvedTime = i.resolvedTime
  recounts : e.Recounts now health i j.resolvedRetryCount
  rest : j = { i with
    status := j.status
    resolvedTime := j.resolvedTime
    resolvedRetryCount := j.resolvedRetryCount
    lastAlerted := j.lastAlerted }

/-- All arithmetic about an incident stays within its bounds. -/
structure Bounded (i : Incident) : Prop where
  settles : ∃ settledAt, i.lastSeen.add e.settings.settleAfter = .ok settledAt
  waits : ∃ probedFrom, i.lastSeen.add e.settings.bufferWindow = .ok probedFrom
  counts : i.resolvedRetryCount.toNat + 1 < UInt32.size
  compares : ∀ h, health i.involvedObject.namespaceName i.involvedObject.name = .ok h →
    ∃ failing, IsFailing health i failing

instance (i : Incident) (span : Span) : Decidable (QuietFor now i span) :=
  match found : i.lastSeen.add span with
  | .ok quietAt => decidable_of_iff (quietAt ≤ now) (by simp [QuietFor, found])
  | .error _ => isFalse (by simp [QuietFor, found])

instance (i : Incident) : Decidable (e.Probes now i) :=
  decidable_of_iff (i.involvedObject.kind = .deployment ∧ i.severity = .critical ∧
      QuietFor now i e.settings.bufferWindow)
    ⟨fun ⟨deployment, critical, quiet⟩ => ⟨deployment, critical, quiet⟩,
      fun probes => ⟨probes.deployment, probes.critical, probes.quiet⟩⟩

/-- The inquiry about an incident, if there is one. -/
def inquiry (i : Incident) : List (String × String) :=
  if e.Probes now i then [deploymentOf i] else []

end Specification

variable {e : Engine} {now : Instant} {health : String → String → Except QueryError RolloutHealth}
  {i : Incident}

theorem quietFor_iff {span : Span} {quietAt : Instant}
    (found : i.lastSeen.add span = .ok quietAt) : QuietFor now i span ↔ quietAt ≤ now := by
  simp [QuietFor, found]

theorem IsFailing.unique {failing failing' : Bool} (known : IsFailing health i failing)
    (known' : IsFailing health i failing') : failing = failing' := by
  obtain ⟨h, answer, value⟩ := known
  obtain ⟨h', answer', value'⟩ := known'
  cases answer.symm.trans answer'
  cases value.symm.trans value'
  rfl

theorem IsFailing.not_unavailable {failing : Bool} (known : IsFailing health i failing) :
    ¬ IsUnavailable health i := by
  rintro ⟨error, unavailable⟩
  obtain ⟨h, answer, -⟩ := known
  cases answer.symm.trans unavailable

/-! ## What decides -/

theorem not_probes_of_spared
    (spared : ¬ (i.involvedObject.kind = .deployment ∧ i.severity = .critical)) :
    ¬ e.Probes now i :=
  fun probes => spared ⟨probes.deployment, probes.critical⟩

theorem not_probes_of_early {probedFrom : Instant}
    (waits : i.lastSeen.add e.settings.bufferWindow = .ok probedFrom) (early : now < probedFrom) :
    ¬ e.Probes now i := by
  intro probes
  have late := (quietFor_iff waits).1 probes.quiet
  exact Instant.not_lt_of_le late early

/-- An incident whose deployment does not decide about it is settled by time alone. -/
theorem settles_iff_of_spared
    (spared : ¬ (i.involvedObject.kind = .deployment ∧ i.severity = .critical)) :
    e.Settles now health i ↔ QuietFor now i e.settings.settleAfter := by
  refine ⟨fun settles => ?_, .settled spared⟩
  cases settles with
  | settled _ quiet => exact quiet
  | recovered probes => exact absurd probes (not_probes_of_spared spared)
  | givenUp probes => exact absurd probes (not_probes_of_spared spared)

/-- Within the buffer window nothing is decided. -/
theorem not_settles_of_early
    (needed : i.involvedObject.kind = .deployment ∧ i.severity = .critical)
    (unprobed : ¬ e.Probes now i) : ¬ e.Settles now health i := by
  intro settles
  cases settles with
  | settled spared => exact spared needed
  | recovered probes => exact unprobed probes
  | givenUp probes => exact unprobed probes

theorem not_settles_of_failing (probes : e.Probes now i) (failing : IsFailing health i true) :
    ¬ e.Settles now health i := by
  intro settles
  cases settles with
  | settled spared => exact not_probes_of_spared spared probes
  | recovered _ healthy => cases failing.unique healthy
  | givenUp _ _ unavailable => exact failing.not_unavailable unavailable

theorem settles_iff_of_healthy (probes : e.Probes now i) (healthy : IsFailing health i false) :
    e.Settles now health i ↔
      e.settings.retryThreshold.toNat ≤ i.resolvedRetryCount.toNat + 1 := by
  refine ⟨fun settles => ?_, .recovered probes healthy⟩
  cases settles with
  | settled spared => exact absurd probes (not_probes_of_spared spared)
  | recovered _ _ enough => exact enough
  | givenUp _ _ unavailable => exact absurd unavailable healthy.not_unavailable

theorem settles_iff_of_unavailable (probes : e.Probes now i)
    (unavailable : IsUnavailable health i) :
    e.Settles now health i ↔ QuietFor now i e.settings.settleAfter := by
  refine ⟨fun settles => ?_, fun quiet => .givenUp probes quiet unavailable⟩
  cases settles with
  | settled _ quiet => exact quiet
  | recovered _ healthy => exact absurd unavailable healthy.not_unavailable
  | givenUp _ quiet => exact quiet

theorem recounts_unprobed (unprobed : ¬ e.Probes now i) :
    e.Recounts now health i i.resolvedRetryCount :=
  ⟨fun probes => absurd probes unprobed, fun probes => absurd probes unprobed,
    fun probes => absurd probes unprobed, fun _ => rfl⟩

theorem recounts_failing (probes : e.Probes now i) (failing : IsFailing health i true) :
    e.Recounts now health i 0 := by
  refine ⟨fun _ _ => rfl, ?_, ?_, fun unprobed => absurd probes unprobed⟩
  · intro _ healthy
    cases failing.unique healthy
  · intro _ unavailable
    exact absurd unavailable failing.not_unavailable

theorem recounts_healthy (probes : e.Probes now i) (healthy : IsFailing health i false)
    {count : UInt32} (counted : count.toNat = i.resolvedRetryCount.toNat + 1) :
    e.Recounts now health i count := by
  refine ⟨?_, fun _ _ => counted, ?_, fun unprobed => absurd probes unprobed⟩
  · intro _ failing
    cases failing.unique healthy
  · intro _ unavailable
    exact absurd unavailable healthy.not_unavailable

theorem recounts_unavailable (unavailable : IsUnavailable health i) :
    e.Recounts now health i i.resolvedRetryCount := by
  refine ⟨?_, ?_, fun _ _ => rfl, fun _ => rfl⟩
  · intro _ failing
    exact absurd unavailable failing.not_unavailable
  · intro _ healthy
    exact absurd unavailable healthy.not_unavailable

theorem Recounts.unique {count count' : UInt32} (recounts : e.Recounts now health i count)
    (recounts' : e.Recounts now health i count') (bounded : e.Bounded health i) :
    count = count' := by
  by_cases probes : e.Probes now i
  · cases answer : health i.involvedObject.namespaceName i.involvedObject.name with
    | ok h =>
        obtain ⟨failing, known⟩ := bounded.compares h answer
        cases failing with
        | true => rw [recounts.failing probes known, recounts'.failing probes known]
        | false =>
            rw [← UInt32.toNat_inj, recounts.healthy probes known, recounts'.healthy probes known]
    | error error =>
        have unavailable : IsUnavailable health i := ⟨error, answer⟩
        rw [recounts.unavailable probes unavailable, recounts'.unavailable probes unavailable]
  · rw [recounts.unprobed probes, recounts'.unprobed probes]

/-! ## Verdicts -/

/-- A verdict on an incident, and its record as it is stored then. -/
structure Verdicts (e : Engine) (now : Instant)
    (health : String → String → Except QueryError RolloutHealth) (i j : Incident)
    (verdict : Verdict) : Prop where
  resolved : verdict = .resolved ↔ e.Settles now health i
  recounts : e.Recounts now health i j.resolvedRetryCount
  rest : j = { i with resolvedRetryCount := j.resolvedRetryCount }

theorem unresolved_ne_resolved : Verdict.unresolved ≠ .resolved := by decide

theorem ite_eq_resolved_iff {p : Prop} [Decidable p] {verdict : Verdict}
    (other : verdict ≠ .resolved) : (if p then .resolved else verdict) = Verdict.resolved ↔ p := by
  split
  · rename_i holds
    exact ⟨fun _ => holds, fun _ => rfl⟩
  · rename_i fails
    exact ⟨fun same => absurd same other, fun holds => absurd holds fails⟩

open IncidentWatch.Sequential

variable {c : Nat → Interleaving.Collaborators} {s : Store} {asked : List (String × String)}

/-- What is attained by judging an incident: its verdict, the inquiry about it, and its record. -/
def Judges (e : Engine) (now : Instant)
    (health : String → String → Except QueryError RolloutHealth) (i : Incident)
    (asked : List (String × String)) (s : Store) (result : Incident × Verdict)
    (asked' : List (String × String)) (s' : Store) : Prop :=
  e.Verdicts now health i result.1 result.2 ∧ asked' = asked ∧ s.Rewrites s' i.id result.1

theorem succeeds_judgeHealth (steadfast : Steadfast health c) (stored : s.get? i.id = some i)
    (probes : e.Probes now i) (bounded : e.Bounded health i) {h : RolloutHealth}
    (answer : health i.involvedObject.namespaceName i.involvedObject.name = .ok h) :
    Succeeds c (e.judgeHealth i h) asked s (e.Judges now health i asked s) := by
  obtain ⟨failing, h', answer', compares⟩ := bounded.compares h answer
  cases answer.symm.trans answer'
  refine succeeds_bind (succeeds_checked compares ?_)
  cases failing with
  | true =>
      have known : IsFailing health i true := ⟨h, answer, compares⟩
      refine succeeds_bind (succeeds_update steadfast.grants stored fun s' updated => ?_)
      refine succeeds_pure ⟨⟨?_, recounts_failing probes known, rfl⟩, rfl, .of_update updated⟩
      exact ⟨nofun, fun settles => absurd settles (not_settles_of_failing probes known)⟩
  | false =>
      have known : IsFailing health i false := ⟨h, answer, compares⟩
      obtain ⟨retries, counts⟩ : ∃ retries, Word.uint32 .addOverflow
          (i.resolvedRetryCount.toNat + 1) = .ok retries := ⟨_, if_pos bounded.counts⟩
      have counted := Word.toNat_of_uint32 counts
      refine succeeds_bind (succeeds_checked counts ?_)
      refine succeeds_bind (succeeds_update steadfast.grants stored fun s' updated => ?_)
      refine succeeds_after_aside (fun _ => rfl) rfl fun _ => ?_
      refine succeeds_pure ⟨⟨?_, recounts_healthy probes known counted, rfl⟩, rfl,
        .of_update updated⟩
      refine (ite_eq_resolved_iff unresolved_ne_resolved).trans ?_
      rw [settles_iff_of_healthy probes known, ← counted]
      exact UInt32.le_iff_toNat_le

theorem attains_judgeUnreadable (stored : s.get? i.id = some i) (probes : e.Probes now i)
    {settledAt : Instant} (settles : i.lastSeen.add e.settings.settleAfter = .ok settledAt)
    {error : QueryError}
    (answer : health i.involvedObject.namespaceName i.involvedObject.name = .error error) :
    Attains c (judgeUnreadable i (decide (settledAt ≤ now)) error) asked s
      (e.Judges now health i asked s) := by
  have unavailable : IsUnavailable health i := ⟨error, answer⟩
  have recounts : e.Recounts now health i i.resolvedRetryCount := recounts_unavailable unavailable
  have settled := (settles_iff_of_unavailable probes unavailable).trans (quietFor_iff settles)
  unfold judgeUnreadable
  by_cases quiet : settledAt ≤ now
  · simp only [quiet, decide_true, if_true]
    refine attains_after_aside (fun _ => rfl) rfl fun _ => ?_
    exact attains_pure ⟨⟨⟨fun _ => settled.2 quiet, fun _ => rfl⟩, recounts, rfl⟩, rfl,
      .refl stored⟩
  · simp only [quiet, decide_false, Bool.false_eq_true, if_false]
    refine attains_after_aside (fun _ => rfl) rfl fun _ => ?_
    exact attains_pure ⟨⟨⟨nofun, fun settles' => absurd (settled.1 settles') quiet⟩, recounts, rfl⟩,
      rfl, .refl stored⟩

theorem succeeds_judge (steadfast : Steadfast health c) (stored : s.get? i.id = some i)
    (bounded : e.Bounded health i) :
    Succeeds c (e.judge i now) asked s
      (e.Judges now health i (asked ++ e.inquiry now i) s) := by
  obtain ⟨settledAt, settles⟩ := bounded.settles
  obtain ⟨probedFrom, waits⟩ := bounded.waits
  unfold judge
  refine succeeds_bind (succeeds_checked settles ?_)
  by_cases needed : i.involvedObject.kind = .deployment ∧ i.severity = .critical
  case neg =>
      have unprobed : ¬ e.Probes now i := not_probes_of_spared needed
      rw [if_neg fun needs => needed (needsProbe_iff.1 needs)]
      refine succeeds_pure ⟨⟨?_, recounts_unprobed unprobed, rfl⟩, ?_, .refl stored⟩
      · refine (ite_eq_resolved_iff unresolved_ne_resolved).trans ?_
        rw [decide_eq_true_eq, settles_iff_of_spared needed, quietFor_iff settles]
      · rw [inquiry, if_neg unprobed, List.append_nil]
  case pos =>
      rw [if_pos (needsProbe_iff.2 needed)]
      refine succeeds_bind (succeeds_checked waits ?_)
      by_cases early : now < probedFrom
      · have unprobed : ¬ e.Probes now i := not_probes_of_early waits early
        rw [if_pos early]
        refine succeeds_pure ⟨⟨?_, recounts_unprobed unprobed, rfl⟩, ?_, .refl stored⟩
        · exact ⟨nofun, fun settles' => absurd settles' (not_settles_of_early needed unprobed)⟩
        · rw [inquiry, if_neg unprobed, List.append_nil]
      · have probes : e.Probes now i :=
          ⟨needed.1, needed.2, probedFrom, waits, Instant.le_of_not_lt early⟩
        rw [if_neg early, inquiry, if_pos probes]
        refine succeeds_bind (succeeds_lift (attains_rollout steadfast ?_))
        cases answer : health i.involvedObject.namespaceName i.involvedObject.name with
        | ok h => exact succeeds_judgeHealth steadfast stored probes bounded answer
        | error error => exact succeeds_lift (attains_judgeUnreadable stored probes settles answer)

/-! ## Visits -/

theorem succeeds_resolve (grants : ∀ n, (c n).refusal = none) {j : Incident}
    (stored : s.get? j.id = some j) :
    Succeeds c (e.resolve j now) asked s fun k asked' s' =>
      k = j.resolvedAt now ∧ asked' = asked ∧ s.Rewrites s' j.id k := by
  unfold resolve
  refine succeeds_bind (succeeds_update grants stored fun s' updated => ?_)
  refine succeeds_after_aside (fun _ => rfl) rfl fun _ => ?_
  refine succeeds_after_aside (fun _ => rfl) rfl fun _ => ?_
  exact succeeds_pure ⟨rfl, rfl, .of_update updated⟩

/-- What is attained by dealing with an incident: its record after the sweep and the inquiry. -/
def Sweeps (e : Engine) (now : Instant)
    (health : String → String → Except QueryError RolloutHealth) (i : Incident)
    (asked : List (String × String)) (s : Store) (j : Incident)
    (asked' : List (String × String)) (s' : Store) : Prop :=
  e.Swept now health i j ∧ asked' = asked ++ e.inquiry now i ∧ s.Rewrites s' i.id j

theorem succeeds_examine (steadfast : Steadfast health c) (stored : s.get? i.id = some i)
    (active : i.status = .active) (bounded : e.Bounded health i) :
    Succeeds c (e.examine i now) asked s fun result asked' s' =>
      ∃ j verdict, result = some (j, verdict) ∧ e.Sweeps now health i asked s j asked' s' := by
  unfold examine
  refine succeeds_underLock (succeeds_bind (succeeds_read? steadfast.grants stored ?_))
  dsimp only
  rw [if_pos (Incident.isActive_iff.2 active)]
  refine succeeds_bind ((succeeds_judge steadfast stored bounded).mono ?_)
  rintro ⟨j, verdict⟩ asked' s₁ ⟨verdicts, asks, rewrites⟩
  dsimp only at verdicts rewrites ⊢
  have same : j.id = i.id := by rw [verdicts.rest]
  split
  · rename_i resolves
    have settles := verdicts.resolved.1 resolves
    have stored' : s₁.get? j.id = some j := by
      rw [same]
      exact rewrites.here
    refine succeeds_bind ((succeeds_resolve steadfast.grants stored').mono ?_)
    rintro k asked'' s₂ ⟨rfl, asks', rewrites'⟩
    rw [same] at rewrites'
    refine succeeds_pure ⟨_, verdict, rfl, ⟨?_, fun _ => rfl, ?_, verdicts.recounts, ?_⟩,
      asks'.trans asks, rewrites.trans rewrites'⟩
    · exact ⟨fun _ => settles, fun _ => rfl⟩
    · exact fun unsettled => absurd settles unsettled
    · rw [Incident.resolvedAt, verdicts.rest]
  · rename_i stays
    have unsettled : ¬ e.Settles now health i := fun settles => stays (verdicts.resolved.2 settles)
    refine succeeds_pure ⟨_, verdict, rfl, ⟨?_, ?_, ?_, verdicts.recounts, ?_⟩, asks, rewrites⟩
    · rw [verdicts.rest]
      dsimp only
      rw [active]
      exact ⟨nofun, fun settles => absurd settles unsettled⟩
    · exact fun settles => absurd settles unsettled
    · intro _
      rw [verdicts.rest]
    · rw [verdicts.rest]

/-- What a sweep makes of an incident is determined by it, but for the mark of an announcement. -/
theorem Swept.unique {j j' : Incident} (swept : e.Swept now health i j)
    (swept' : e.Swept now health i j') (bounded : e.Bounded health i) :
    j' = { j with lastAlerted := j'.lastAlerted } := by
  have status : j'.status = j.status := by
    have same := swept'.resolved.trans swept.resolved.symm
    cases before : j.status <;> cases after : j'.status <;> simp_all
  have resolvedTime : j'.resolvedTime = j.resolvedTime := by
    by_cases settles : e.Settles now health i
    · rw [swept.resolvedTime settles, swept'.resolvedTime settles]
    · rw [swept.unresolved settles, swept'.unresolved settles]
  rw [swept'.rest, swept.rest]
  simp only [status, resolvedTime, swept'.recounts.unique swept.recounts bounded]

/-- The mark of an announcement is no part of what a sweep makes of an incident. -/
theorem Swept.marked {j : Incident} (swept : e.Swept now health i j) (marked : Option Instant) :
    e.Swept now health i { j with lastAlerted := marked } := by
  refine ⟨swept.resolved, swept.resolvedTime, swept.unresolved, swept.recounts, ?_⟩
  rw [swept.rest]

/-- After an announcement at most the mark of the incident is another one, and if it failed, the
notifier did. -/
def Announces (i : Incident) (asked : List (String × String)) (s : Store) {α : Type}
    (result : Incident × Except EngineError α) (asked' : List (String × String)) (s' : Store) :
    Prop :=
  asked' = asked ∧ (∃ marked, s.Rewrites s' i.id { i with lastAlerted := marked }) ∧
    ∀ error, result.2 = .error error → ∃ text, error = .delivery text

theorem succeeds_storeMark (grants : ∀ n, (c n).refusal = none) (stored : s.get? i.id = some i) :
    Succeeds c (storeMark i now) asked s fun _ asked' s' =>
      asked' = asked ∧ s.Rewrites s' i.id { i with lastAlerted := some now } := by
  unfold storeMark
  refine succeeds_underLock (succeeds_bind (succeeds_read? grants stored ?_))
  refine succeeds_bind (succeeds_update grants stored fun s' updated => ?_)
  exact succeeds_pure ⟨rfl, .of_update updated⟩

theorem attains_announce (grants : ∀ n, (c n).refusal = none) (kind : AlertKind)
    (stored : s.get? i.id = some i) :
    Attains c (e.announce i kind now) asked s (Announces i asked s) := by
  unfold announce
  refine attains_after_aside (fun _ => rfl) rfl fun answer => ?_
  cases answer with
  | ok delivered =>
      unfold markAlerted
      refine attains_bind (Attains.mono (succeeds_storeMark grants stored) ?_)
      rintro _ asked' s' ⟨marked, rfl, rfl, rewrites⟩
      refine attains_after_aside (fun _ => rfl) rfl fun _ => ?_
      refine attains_after_aside (fun _ => rfl) rfl fun _ => ?_
      exact attains_pure ⟨rfl, ⟨some now, rewrites⟩, nofun⟩
  | error text =>
      refine attains_after_aside (fun _ => rfl) rfl fun _ => ?_
      refine attains_after_aside (fun _ => rfl) rfl fun _ => ?_
      refine attains_pure ⟨rfl, ⟨i.lastAlerted, .refl stored⟩, ?_⟩
      intro error failed
      cases failed
      exact ⟨text, rfl⟩

theorem Announces.map {α β : Type} {result : Incident × Except EngineError α} (f : α → β)
    {asked' : List (String × String)} {s' : Store}
    (announces : Announces i asked s result asked' s') :
    Announces i asked s (result.1, result.2.map f) asked' s' := by
  obtain ⟨asks, marks, fails⟩ := announces
  refine ⟨asks, marks, fun error failed => fails error ?_⟩
  cases outcome : result.2 with
  | ok a =>
      rw [outcome] at failed
      cases failed
  | error error' =>
      rw [outcome] at failed
      cases failed
      rfl

theorem announces_nothing (stored : s.get? i.id = some i) (asked : List (String × String)) :
    Announces i asked s (i, (.ok false : Except EngineError Bool)) asked s :=
  ⟨rfl, ⟨i.lastAlerted, .refl stored⟩, nofun⟩

theorem attains_alertOpen (grants : ∀ n, (c n).refusal = none) (stored : s.get? i.id = some i) :
    Attains c (e.alertOpen i now) asked s (Announces i asked s) := by
  unfold alertOpen
  split
  · refine attains_bind (Attains.mono (attains_announce grants .opened stored) ?_)
    intro result asked' s' announces
    exact attains_pure (announces.map fun _ => true)
  · exact attains_pure (announces_nothing stored asked)

theorem attains_alertResolved (grants : ∀ n, (c n).refusal = none)
    (stored : s.get? i.id = some i) :
    Attains c (e.alertResolved i now) asked s (Announces i asked s) := by
  unfold alertResolved
  split
  · refine attains_bind (Attains.mono (attains_announce grants .resolved stored) ?_)
    intro result asked' s' announces
    exact attains_pure (announces.map fun _ => true)
  · exact attains_pure (announces_nothing stored asked)

/-- A report that counts no more resolved incidents than were visited. -/
def Counting (examined visited : Nat) (report : SweepReport) : Prop :=
  report.examined = examined ∧ report.resolved ≤ visited

theorem succeeds_countAlert {report : SweepReport} {result : Except EngineError Bool}
    {examined visited : Nat}
    (fails : ∀ error, result = .error error → ∃ text, error = .delivery text)
    (counting : Counting examined visited report) :
    Succeeds c (countAlert report result) asked s fun report' asked' s' =>
      Counting examined visited report' ∧ asked' = asked ∧ s' = s := by
  cases result with
  | ok sent =>
      cases sent with
      | true => exact succeeds_pure ⟨counting, rfl, rfl⟩
      | false => exact succeeds_pure ⟨counting, rfl, rfl⟩
  | error error =>
      obtain ⟨text, rfl⟩ := fails error rfl
      exact succeeds_pure ⟨counting, rfl, rfl⟩

theorem succeeds_visit (steadfast : Steadfast health c) (stored : s.get? i.id = some i)
    (active : i.status = .active) (bounded : e.Bounded health i) {report : SweepReport}
    {examined visited : Nat} (counting : Counting examined visited report) :
    Succeeds c (e.visit now report i) asked s fun report' asked' s' =>
      Counting examined (visited + 1) report' ∧
        ∃ j, e.Sweeps now health i asked s j asked' s' := by
  unfold visit
  refine succeeds_bind ((succeeds_examine steadfast stored active bounded).mono ?_)
  rintro _ asked' s₁ ⟨j, verdict, rfl, swept, asks, rewrites⟩
  have same : j.id = i.id := by rw [swept.rest]
  have stored' : s₁.get? j.id = some j := by
    rw [same]
    exact rewrites.here
  -- What an announcement leaves is what the sweep makes of the incident, with another mark.
  have announced : ∀ {result : Incident × Except EngineError Bool} {asked'' s₂},
      Announces j asked' s₁ result asked'' s₂ →
        ∃ k, e.Sweeps now health i asked s k asked'' s₂ := by
    rintro result asked'' s₂ ⟨asks', ⟨marked, rewrites'⟩, -⟩
    refine ⟨_, swept.marked marked, asks'.trans asks, rewrites.trans ?_⟩
    rw [← same]
    exact rewrites'
  cases verdict with
  | skipped =>
      exact succeeds_pure ⟨⟨counting.1, Nat.le_succ_of_le counting.2⟩, j, swept, asks, rewrites⟩
  | unresolved =>
      refine succeeds_bind (succeeds_lift ((attains_alertOpen steadfast.grants stored').mono ?_))
      intro result asked'' s₂ announces
      have more : Counting examined (visited + 1) report :=
        ⟨counting.1, Nat.le_succ_of_le counting.2⟩
      refine (succeeds_countAlert announces.2.2 more).mono ?_
      rintro report' _ _ ⟨counting', rfl, rfl⟩
      exact ⟨counting', announced announces⟩
  | resolved =>
      refine succeeds_bind (succeeds_lift
        ((attains_alertResolved steadfast.grants stored').mono ?_))
      intro result asked'' s₂ announces
      have more : Counting examined (visited + 1) { report with resolved := report.resolved + 1 } :=
        ⟨counting.1, Nat.succ_le_succ counting.2⟩
      refine (succeeds_countAlert announces.2.2 more).mono ?_
      rintro report' _ _ ⟨counting', rfl, rfl⟩
      exact ⟨counting', announced announces⟩

/-! ## The sweep -/

/-- In the middle of a sweep: the incidents that were dealt with are swept, all others are as they
were. -/
structure Midway (e : Engine) (now : Instant)
    (health : String → String → Except QueryError RolloutHealth) (s : Store) (done : List Incident)
    (report : SweepReport) (asked : List (String × String)) (s' : Store) : Prop where
  counting : Counting (s.matching .active).length done.length report
  asks : asked = done.flatMap (e.inquiry now)
  ids : s'.incidents.map (·.id) = s.incidents.map (·.id)
  swept : ∀ i ∈ done, ∃ j, s'.get? i.id = some j ∧ e.Swept now health i j
  others : ∀ id, (∀ i ∈ done, i.id ≠ id) → s'.get? id = s.get? id

theorem midway_start (s : Store) : e.Midway now health s []
    { examined := (s.matching .active).length } [] s :=
  ⟨⟨rfl, Nat.le_refl 0⟩, rfl, rfl, (fun _ member => nomatch member), fun _ _ => rfl⟩

/-- An incident that is dealt with later is found as it was listed, for it has another id. -/
theorem succeeds_visit_midway (steadfast : Steadfast health c) {s' : Store}
    {done todo : List Incident} {report : SweepReport}
    (bounded : ∀ i ∈ s.incidents, i.status = .active → e.Bounded health i)
    (listed : s.matching .active = done ++ i :: todo)
    (midway : e.Midway now health s done report asked s') :
    Succeeds c (e.visit now report i) asked s' (e.Midway now health s (done ++ [i])) := by
  have matched : i ∈ s.matching .active := by
    rw [listed]
    exact List.mem_append_right _ List.mem_cons_self
  obtain ⟨member, accepted⟩ := List.mem_filter.1 matched
  have active := IncidentFilter.accepts_active.1 accepted
  have distinct : ((done ++ i :: todo).map (·.id)).Nodup :=
    listed ▸ s.distinct.sublist (List.filter_sublist.map _)
  have apart : ∀ k ∈ done, k.id ≠ i.id := by
    rw [List.map_append, List.nodup_append] at distinct
    intro k earlier
    exact distinct.2.2 k.id (List.mem_map_of_mem earlier) i.id (by simp)
  have stored : s'.get? i.id = some i := by
    rw [midway.others i.id apart]
    exact Store.get?_of_mem member
  refine (succeeds_visit steadfast stored active (bounded i member active)
    midway.counting).mono ?_
  rintro report' asked' s'' ⟨counting, j, swept, asks, rewrites⟩
  refine ⟨?_, ?_, rewrites.ids.trans midway.ids, ?_, ?_⟩
  · rw [List.length_append, List.length_singleton]
    exact counting
  · rw [asks, midway.asks, List.flatMap_append, List.flatMap_cons, List.flatMap_nil,
      List.append_nil]
  · intro k among
    rcases List.mem_append.1 among with earlier | here
    · obtain ⟨k', stored', swept'⟩ := midway.swept k earlier
      exact ⟨k', (rewrites.others k.id (apart k earlier)).trans stored', swept'⟩
    · cases List.mem_singleton.1 here
      exact ⟨j, rewrites.here, swept⟩
  · intro id away
    rw [rewrites.others id (away i (by simp)).symm]
    exact midway.others id fun k earlier => away k (List.mem_append_left _ earlier)

theorem flatMap_inquiry (e : Engine) (now : Instant) (incidents : List Incident) :
    incidents.flatMap (e.inquiry now) =
      (incidents.filter fun i => e.Probes now i).map deploymentOf := by
  induction incidents with
  | nil => rfl
  | cons i rest inductionHypothesis =>
      rw [List.flatMap_cons, inductionHypothesis, inquiry, List.filter_cons]
      by_cases probes : e.Probes now i
      · simp [probes]
      · simp [probes]

theorem succeeds_sweep (steadfast : Steadfast health c) (room : s.size < UInt64.size)
    (bounded : ∀ i ∈ s.incidents, i.status = .active → e.Bounded health i) :
    Succeeds c (e.sweep now) [] s (e.Midway now health s (s.matching .active)) := by
  unfold sweep
  refine succeeds_bind (succeeds_listAll steadfast.grants room ?_)
  refine succeeds_bind ((succeeds_foldlM (e.Midway now health s) ?_ (midway_start s)).mono ?_)
  · intro done i todo report asked s' listed midway
    exact succeeds_visit_midway steadfast bounded listed midway
  · intro report asked s' midway
    obtain ⟨examined, resolved⟩ := midway.counting
    have few : (s.matching .active).length < UInt64.size :=
      Nat.lt_of_le_of_lt (List.length_filter_le _ _) room
    have size : UInt64.size = 18446744073709551616 := rfl
    obtain ⟨left, subtracts⟩ : ∃ left, Word.uint64 .subtractOverflow
        ((report.examined : Int) - report.resolved) = .ok left :=
      ⟨_, Word.uint64_eq_ok_iff.2 ⟨by omega, rfl⟩⟩
    refine succeeds_after_aside (fun _ => rfl) rfl fun _ => ?_
    refine succeeds_bind (succeeds_checked subtracts ?_)
    refine succeeds_after_aside (fun _ => rfl) rfl fun _ => ?_
    refine succeeds_after_aside (fun _ => rfl) rfl fun _ => ?_
    exact succeeds_pure midway

/-- A sweep over any store of fewer incidents than a word can count, that nobody disturbs and in
which all arithmetic stays within its bounds, whatever the notifier does. It ends with a report.
What it makes of an active incident depends on that incident alone, on the instant and on what is
known of its deployment (`Swept`), but for the mark of an announcement; and the deployment is
inquired about exactly when it decides and the buffer window is over. Every incident that is not
active stays as it is, and each stays in its place. -/
theorem sweep_acts_pointwise (e : Engine) (now : Instant)
    (health : String → String → Except QueryError RolloutHealth)
    (c : Nat → Interleaving.Collaborators) (n : Nat) (s : Store) (steadfast : Steadfast health c)
    (room : s.size < UInt64.size)
    (bounded : ∀ i ∈ s.incidents, i.status = .active → e.Bounded health i) :
    ∃ report requests s', undisturbed c (e.sweep now).run n s = some (.ok report, requests, s') ∧
      s'.incidents.map (·.id) = s.incidents.map (·.id) ∧
      (∀ i ∈ s.incidents, i.status = .active →
        ∃ j, s'.get? i.id = some j ∧ e.Swept now health i j ∧
          ∀ j', e.Swept now health i j' → j' = { j with lastAlerted := j'.lastAlerted }) ∧
      (∀ i ∈ s.incidents, i.status ≠ .active → s'.get? i.id = some i) ∧
      inquiries requests =
        ((s.matching .active).filter fun i => e.Probes now i).map deploymentOf := by
  obtain ⟨_, requests, s', ran, report, rfl, midway⟩ :=
    (succeeds_sweep steadfast room bounded : Succeeds c (e.sweep now) [] s _) n
  refine ⟨report, requests, s', ran, midway.ids, ?_, ?_, ?_⟩
  · intro i member active
    obtain ⟨j, stored, swept⟩ := midway.swept i
      (List.mem_filter.2 ⟨member, IncidentFilter.accepts_active.2 active⟩)
    exact ⟨j, stored, swept, fun j' swept' => swept.unique swept' (bounded i member active)⟩
  · intro i member closed
    rw [midway.others, Store.get?_of_mem member]
    intro k matched same
    obtain ⟨memberK, accepted⟩ := List.mem_filter.1 matched
    have active := IncidentFilter.accepts_active.1 accepted
    rw [Store.eq_of_id_eq memberK member same] at active
    exact closed active
  · rw [← flatMap_inquiry, ← midway.asks, List.nil_append]

open Interleaving.Sample

/-- Every deployment has its two replicas. -/
def allHealthy : String → String → Except QueryError RolloutHealth :=
  fun _ _ => .ok (rollout 2)

/-- A critical incident of a deployment that was found healthy twice. -/
def recovering : Incident :=
  { incident "b" with
    involvedObject := deployment.involvedObject
    severity := .critical
    resolvedRetryCount := 2 }

/-- The incident of a stateful set, that of a deployment, and one that is resolved. -/
def threeToSweep : Store where
  incidents := [incident "a", recovering, { incident "c" with status := .resolved }]
  distinct := by decide

theorem sweep_acts_pointwise_on_three :
    Steadfast allHealthy (fun _ => deployed 2 "") ∧ threeToSweep.size < UInt64.size ∧
    (∀ i ∈ threeToSweep.incidents, i.status = .active → engine.Bounded allHealthy i) ∧
    ∃ report requests s', undisturbed (fun _ => deployed 2 "")
        (engine.sweep (afterSeconds 400)).run 0 threeToSweep = some (.ok report, requests, s') ∧
      (∃ j, s'.get? "a" = some j ∧ j.status ≠ .resolved) ∧
      (∃ j, s'.get? "b" = some j ∧ j.status = .resolved ∧
        j.resolvedTime = some (afterSeconds 400) ∧ j.resolvedRetryCount.toNat = 3) ∧
      inquiries requests = [("default", "web")] := by
  have steadfast : Steadfast allHealthy (fun _ => deployed 2 "") :=
    ⟨fun _ => rfl, fun _ _ _ _ => rfl⟩
  have room : threeToSweep.size < UInt64.size := by decide
  have bounded : ∀ i ∈ threeToSweep.incidents, i.status = .active →
      engine.Bounded allHealthy i := by
    have seen : ∀ i ∈ threeToSweep.incidents, i.lastSeen = .epoch ∧
        i.resolvedRetryCount.toNat + 1 < UInt32.size := by decide
    intro i member _
    obtain ⟨epoch, counts⟩ := seen i member
    refine ⟨?_, ?_, counts, ?_⟩
    · rw [epoch]
      exact ⟨_, rfl⟩
    · rw [epoch]
      exact ⟨_, rfl⟩
    · rintro h answer
      exact ⟨false, h, answer, by cases answer; rfl⟩
  obtain ⟨report, requests, s', ran, -, swept, -, asks⟩ := sweep_acts_pointwise engine
    (afterSeconds 400) allHealthy (fun _ => deployed 2 "") 0 threeToSweep steadfast room bounded
  refine ⟨steadfast, room, bounded, report, requests, s', ran, ?_, ?_, ?_⟩
  · obtain ⟨j, stored, spared, -⟩ := swept (incident "a") (by decide) rfl
    have early : ¬ QuietFor (afterSeconds 400) (incident "a") engine.settings.settleAfter := by
      decide
    refine ⟨j, stored, fun resolved => early ?_⟩
    exact (settles_iff_of_spared (by decide)).1 (spared.resolved.1 resolved)
  · obtain ⟨j, stored, recovered, -⟩ := swept recovering (by decide) rfl
    have probes : engine.Probes (afterSeconds 400) recovering := by decide
    have healthy : IsFailing allHealthy recovering false := ⟨rollout 2, rfl, rfl⟩
    have settles : engine.Settles (afterSeconds 400) allHealthy recovering :=
      .recovered probes healthy (by decide)
    exact ⟨j, stored, recovered.resolved.2 settles, recovered.resolvedTime settles,
      recovered.recounts.healthy probes healthy⟩
  · rw [asks]
    decide

end Engine

end IncidentWatch

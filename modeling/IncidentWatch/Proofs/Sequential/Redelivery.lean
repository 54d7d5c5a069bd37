import IncidentWatch.Proofs.Interleaving.Sample
import IncidentWatch.Proofs.Sequential.Alone

/-!
# Delivering a batch again

A batch that was saved is delivered again and again, with nothing else in between. Its
candidates then differ only in their ids and in the instant, so the target is looked for
by the same cause in the same release. Once the target is an incident that has all the
keys of the batch (`Absorbs`), every repeat is merged into it and adds nothing.

So it is after a merge, and after the creation of an incident that has a primary cause.
An incident without one is never found by the search, whose cause is empty then, and
every repeat goes past it (`repeats_are_merged_iff`).
-/

set_option autoImplicit false

namespace IncidentWatch.Sequential

open Interleaving

variable {s s' : Store} {i j candidate candidate' : Incident} {owner : OwnerRef} {now : Instant}
  {id : String}

/-! ## Targets -/

/-- An active incident of the candidate's release with the candidate's cause among its own. -/
def Matches (candidate i : Incident) : Prop :=
  i.releaseKey = candidate.releaseKey ∧ i.status = .active ∧
    i.hasPrimaryCause (Saving.cause candidate) = true

instance (candidate i : Incident) : Decidable (Matches candidate i) :=
  inferInstanceAs (Decidable (_ ∧ _))

/-- The target is the first match in the store. -/
theorem target?_eq_find? (s : Store) (candidate : Incident) :
    Saving.target? (activeOf s candidate.releaseKey) candidate =
      s.incidents.find? fun i => Matches candidate i := by
  unfold Saving.target? activeOf Store.shelf
  rw [List.find?_filter, List.find?_filter]
  congr 1
  funext i
  refine Bool.eq_iff_iff.2 (Iff.trans ?_ decide_eq_true_iff.symm)
  simp [Matches]

/-- When the first match is replaced by another match, that is the first one then. -/
theorem find?_of_update {p : Incident → Bool} (found : s.incidents.find? p = some i)
    (updated : s.update j = .ok s') (same : j.id = i.id) (holds : p j = true) :
    s'.incidents.find? p = some j := by
  have member := List.mem_of_find?_eq_some found
  obtain ⟨first, before, after, split, none'⟩ := List.find?_eq_some_iff_append.1 found
  have untouched : before.map (fun old => if old.id = j.id then j else old) = before := by
    refine (List.map_congr_left fun old earlier => if_neg fun identical => ?_).trans
      (List.map_id' before)
    have stored : old ∈ s.incidents := by
      rw [split]
      exact List.mem_append_left _ earlier
    have not' := none' old earlier
    rw [Store.eq_of_id_eq stored member (identical.trans same), first] at not'
    cases not'
  rw [Store.incidents_of_update updated, List.find?_eq_some_iff_append]
  refine ⟨holds, before, after.map fun old => if old.id = j.id then j else old, ?_, none'⟩
  rw [Store.replace, split, List.map_append, List.map_cons, untouched, if_pos same.symm]

/-- A candidate is merged into an incident that has all its keys already. -/
structure Absorbs (s : Store) (candidate i : Incident) : Prop where
  target : Saving.target? (activeOf s candidate.releaseKey) candidate = some i
  known : ∀ k ∈ candidate.keys, k ∈ i.keys

theorem Absorbs.stored (absorbs : Absorbs s candidate i) : s.get? i.id = some i := by
  have found := absorbs.target
  rw [target?_eq_find?] at found
  exact Store.get?_of_mem (List.mem_of_find?_eq_some found)

/-- Candidates of one release with the same keys have the same target. -/
theorem target?_congr (release : candidate'.releaseKey = candidate.releaseKey)
    (keys : candidate'.keys = candidate.keys) :
    Saving.target? (activeOf s candidate'.releaseKey) candidate' =
      Saving.target? (activeOf s candidate.releaseKey) candidate := by
  have cause : Saving.cause candidate' = Saving.cause candidate := by
    unfold Saving.cause
    rw [Incident.primaryCause_eq_keys, Incident.primaryCause_eq_keys, keys]
  unfold Saving.target?
  rw [release, cause]

/-- Merging a candidate into its target leaves the target the first match, with the candidate's
keys. -/
theorem absorbs_of_update {merged : Incident}
    (merges : merged = (i.merge candidate.events owner now).1)
    (target : Saving.target? (activeOf s candidate.releaseKey) candidate = some i)
    (updated : s.update merged = .ok s') : Absorbs s' candidate merged := by
  obtain ⟨scope, fields⟩ := i.merge_eq candidate.events owner now
  have found := target
  rw [target?_eq_find?] at found
  have holds : Matches candidate i := by simpa using List.find?_some found
  have keys : ∀ k, k ∈ merged.keys ↔ k ∈ i.keys ∨ k ∈ candidate.keys := by
    intro k
    rw [merges]
    exact Incident.mem_keys_merge
  have matches' : Matches candidate merged := by
    obtain ⟨release, active, cause⟩ := holds
    obtain ⟨k, member, primary, summary⟩ := Incident.hasPrimaryCause_iff.1 cause
    have inMerged : k ∈ merged.keys := (keys k).2 (Or.inl member)
    refine ⟨?_, ?_, Incident.hasPrimaryCause_iff.2 ⟨k, inMerged, primary, summary⟩⟩
    · rw [merges, fields]
      exact release
    · rw [merges, fields]
      exact active
  refine ⟨?_, fun k member => (keys k).2 (Or.inr member)⟩
  rw [target?_eq_find?]
  refine find?_of_update found updated ?_ (decide_eq_true matches')
  rw [merges, fields]

/-- Where a candidate is absorbed, saving it adds nothing, and its like is absorbed again. -/
theorem saved_of_absorbs (absorbs : Absorbs s candidate i) (owner : OwnerRef) (now : Instant) :
    ∃ promoted s' j, saved candidate owner now s = (.ok (.merged i.id promoted), s') ∧
      Absorbs s' candidate j ∧ j.id = i.id ∧ j.identities = i.identities ∧
      s'.incidents.map (·.id) = s.incidents.map (·.id) := by
  obtain ⟨scope, fields⟩ := i.merge_eq candidate.events owner now
  have same : (i.merge candidate.events owner now).1.id = i.id := by rw [fields]
  obtain ⟨s', updated⟩ := Store.exists_update absorbs.stored same
  refine ⟨(i.merge candidate.events owner now).2, s', _, ?_,
    absorbs_of_update rfl absorbs.target updated, same, ?_, Store.ids_of_update updated⟩
  · unfold saved
    rw [absorbs.target]
    dsimp only
    rw [updated, same]
  · rw [fields]
    show (i.absorb candidate.events).map (·.identity) = i.events.map (·.identity)
    rw [Incident.absorb_eq_recordAll]
    refine IncidentEvent.map_recordAll_of_known (fun _ _ => rfl) fun e member => ?_
    obtain ⟨e', member', rfl⟩ := List.mem_map.1 member
    have inCandidate : e'.key ∈ candidate.keys := List.mem_map_of_mem member'
    exact absorbs.known _ inCandidate

/-! ## The first delivery -/

theorem absorbs_of_merged {promoted : Bool}
    (first : saved candidate owner now s = (.ok (.merged id promoted), s')) :
    ∃ i, i.id = id ∧ Absorbs s' candidate i := by
  unfold saved at first
  split at first
  · split at first <;> cases first
  · rename_i target found
    dsimp only at first
    split at first
    · rename_i updated
      cases first
      exact ⟨_, rfl, absorbs_of_update rfl found updated⟩
    · cases first

theorem target?_of_created (first : saved candidate owner now s = (.ok (.created id), s')) :
    id = candidate.id ∧ s.create candidate = .ok s' ∧
      Saving.target? (activeOf s candidate.releaseKey) candidate = none := by
  unfold saved at first
  split at first
  · rename_i none'
    split at first
    · rename_i created
      cases first
      exact ⟨rfl, created, none'⟩
    · cases first
  · dsimp only at first
    split at first <;> cases first

/-- A created incident absorbs its like exactly when it has a primary cause. -/
theorem absorbs_of_created (first : saved candidate owner now s = (.ok (.created id), s'))
    (active : candidate.status = .active) :
    (candidate.primaryCause.isSome = true → Absorbs s' candidate candidate) ∧
      (candidate.primaryCause = none →
        Saving.target? (activeOf s' candidate.releaseKey) candidate = none) := by
  obtain ⟨-, created, none'⟩ := target?_of_created first
  rw [target?_eq_find?] at none'
  have onlyLast : s'.incidents.find? (fun i => Matches candidate i) =
      [candidate].find? fun i => Matches candidate i := by
    rw [Store.incidents_of_create created, List.find?_append, none']
    rfl
  constructor
  · intro caused
    obtain ⟨cause, same⟩ := Option.isSome_iff_exists.1 caused
    have matches' : Matches candidate candidate := by
      refine ⟨rfl, active, ?_⟩
      rw [Saving.cause, same]
      exact Incident.hasPrimaryCause_of_primaryCause same
    refine ⟨?_, fun _ member => member⟩
    rw [target?_eq_find?, onlyLast]
    exact List.find?_cons_of_pos (decide_eq_true matches')
  · intro uncaused
    rw [target?_eq_find?, onlyLast]
    refine List.find?_eq_none.2 fun i member matched => ?_
    rw [List.mem_singleton.1 member, decide_eq_true_iff] at matched
    have some' := Incident.primaryCause_isSome matched.2.2
    rw [uncaused] at some'
    cases some'

/-! ## Repeats -/

/-- The results of delivering a batch at one instant after the other. -/
def deliveries (cluster : Cluster) (ids : Nat → String) (e : Engine) (events : List Event) :
    List Instant → Nat → Store → Option (List (Except EngineError BatchOutcome) × Nat × Store)
  | [], n, s => some ([], n, s)
  | now :: later, n, s =>
    match alone cluster ids (e.handleBatch events now).run n s with
    | none => none
    | some (result, n', s') =>
      (deliveries cluster ids e events later n' s').map fun (results, end') =>
        (result :: results, end')

section Repeats

variable {cluster : Cluster} {ids : Nat → String} {e : Engine} {events : List Event}
  {object : InvolvedObject} {given given' : List String} {id' : String} {now' : Instant}

/-- Candidates of one batch have the same keys. -/
theorem keys_candidateOf
    (enough : given.length = (e.classified (Engine.counting events)).length)
    (enough' : given'.length = (e.classified (Engine.counting events)).length) :
    (candidateOf e events owner object id' given' now').keys =
      (candidateOf e events owner object id given now).keys :=
  Candidate.keys_occurrences_congr enough' enough

/-- They have the same target, too. -/
theorem target?_candidateOf
    (enough : given.length = (e.classified (Engine.counting events)).length)
    (enough' : given'.length = (e.classified (Engine.counting events)).length) :
    Saving.target? (activeOf s (candidateOf e events owner object id' given' now').releaseKey)
        (candidateOf e events owner object id' given' now') =
      Saving.target? (activeOf s (candidateOf e events owner object id given now).releaseKey)
        (candidateOf e events owner object id given now) :=
  target?_congr rfl (keys_candidateOf enough enough')

theorem Absorbs.repeated
    (enough : given.length = (e.classified (Engine.counting events)).length)
    (enough' : given'.length = (e.classified (Engine.counting events)).length)
    (absorbs : Absorbs s (candidateOf e events owner object id given now) i) :
    Absorbs s (candidateOf e events owner object id' given' now') i := by
  refine ⟨(target?_candidateOf enough enough').trans absorbs.target, ?_⟩
  rw [keys_candidateOf enough enough']
  exact absorbs.known

/-- A candidate has a primary cause when one of the recognised events is one. -/
theorem primaryCause_candidateOf
    (enough : given.length = (e.classified (Engine.counting events)).length) :
    (candidateOf e events owner object id given now).primaryCause.isSome = true ↔
      ∃ c ∈ e.classified (Engine.counting events), c.meaning.primary = true := by
  rw [Incident.primaryCause_eq_keys, Option.isSome_map, List.find?_isSome]
  constructor
  · rintro ⟨k, member, primary⟩
    obtain ⟨c, recognized, rfl⟩ :=
      List.mem_map.1 ((Candidate.mem_keys_occurrences enough).1 member)
    exact ⟨c, recognized, primary⟩
  · rintro ⟨c, recognized, primary⟩
    exact ⟨c.key, (Candidate.mem_keys_occurrences enough).2 (List.mem_map_of_mem recognized),
      primary⟩

/-- Once a candidate of the batch is absorbed, every delivery is merged and adds nothing. -/
theorem deliveries_of_absorbs (saves : Saves cluster ids e events owner object)
    (enough : given.length = (e.classified (Engine.counting events)).length)
    (nows : List Instant) (n : Nat) (s : Store) (i : Incident) (room : s.size < UInt64.size)
    (absorbs : Absorbs s (candidateOf e events owner object id given now) i) :
    ∃ n' s' j, deliveries cluster ids e events nows n s =
        some (nows.map fun _ => .ok (.merged i.id), n', s') ∧
      s'.incidents.map (·.id) = s.incidents.map (·.id) ∧ s'.get? i.id = some j ∧
      j.identities = i.identities := by
  induction nows generalizing n s i with
  | nil => exact ⟨n, s, i, rfl, rfl, absorbs.stored, rfl⟩
  | cons now' later inductionHypothesis =>
      obtain ⟨id', given', n₁, enough', delivered⟩ := saves now' n s room
      obtain ⟨promoted, s₁, j, merged, again, same, kept, stored⟩ :=
        saved_of_absorbs (absorbs.repeated enough enough') owner now'
      have room' : s₁.size < UInt64.size := by
        rw [Store.size_of_ids_eq stored]
        exact room
      obtain ⟨n', s', k, rest, ids', last, kept'⟩ :=
        inductionHypothesis n₁ s₁ j room' (again.repeated enough' enough)
      rw [same] at rest last
      refine ⟨n', s', k, ?_, ids'.trans stored, last, kept'.trans kept⟩
      unfold deliveries
      rw [delivered, merged]
      dsimp only [Except.map]
      rw [rest]
      rfl

end Repeats

/-- However often a batch is repeated, it is merged into the incident of an id, and neither an
incident nor an occurrence is added to the store. -/
def RepeatsMerge (cluster : Cluster) (ids : Nat → String) (e : Engine) (events : List Event)
    (n : Nat) (s : Store) (id : String) : Prop :=
  ∀ nows, ∃ n' s' i j, deliveries cluster ids e events nows n s =
      some (nows.map fun _ => .ok (.merged id), n', s') ∧
    s'.incidents.map (·.id) = s.incidents.map (·.id) ∧
    s.get? id = some i ∧ s'.get? id = some j ∧ j.identities = i.identities

/-- The next delivery of a batch creates a further incident, or fails because its id is taken. -/
def RepeatCreates (cluster : Cluster) (ids : Nat → String) (e : Engine) (events : List Event)
    (n : Nat) (s : Store) : Prop :=
  ∀ now, ∃ id result n' s', alone cluster ids (e.handleBatch events now).run n s =
      some (result, n', s') ∧
    (result = .ok (.created id) ∧ s'.size = s.size + 1 ∨
      result = .error (.persistence (.backend ("incident " ++ id ++ " already exists"))) ∧
        (∃ old, s.get? id = some old) ∧ s' = s)

theorem repeatCreates_of_no_target {cluster : Cluster} {ids : Nat → String} {e : Engine}
    {events : List Event} {object : InvolvedObject} {given : List String} (n : Nat)
    (saves : Saves cluster ids e events owner object)
    (enough : given.length = (e.classified (Engine.counting events)).length)
    (room : s.size < UInt64.size)
    (none' : Saving.target? (activeOf s (candidateOf e events owner object id given now).releaseKey)
      (candidateOf e events owner object id given now) = none) :
    RepeatCreates cluster ids e events n s := by
  intro now'
  obtain ⟨id', given', n', enough', delivered⟩ := saves now' n s room
  refine ⟨id', _, n', _, delivered, ?_⟩
  unfold saved
  rw [target?_candidateOf enough enough', none']
  dsimp only
  cases created : s.create (candidateOf e events owner object id' given' now') with
  | ok s' => exact Or.inl ⟨rfl, Store.size_of_create created⟩
  | error error =>
      obtain ⟨rfl, taken⟩ := Store.taken_of_create created
      exact Or.inr ⟨rfl, taken, rfl⟩

theorem size_saved_le {outcome : SaveOutcome}
    (first : saved candidate owner now s = (.ok outcome, s')) : s'.size ≤ s.size + 1 := by
  unfold saved at first
  split at first
  · split at first
    · rename_i created
      cases first
      exact Nat.le_of_eq (Store.size_of_create created)
    · cases first
  · dsimp only at first
    split at first
    · rename_i updated
      cases first
      rw [Store.size_of_ids_eq (Store.ids_of_update updated)]
      exact Nat.le_succ _
    · cases first

section First

variable {cluster : Cluster} {ids : Nat → String} {e : Engine} {events : List Event} {n n' : Nat}
  {outcome : BatchOutcome}

/-- A batch that was filed under an incident has saved a candidate, as it does each time. -/
theorem saved_of_filed (room : s.size < UInt64.size)
    (first : alone cluster ids (e.handleBatch events now).run n s = some (.ok outcome, n', s'))
    (filed : filedUnder outcome = some id) :
    ∃ owner object id₀ given saving, Saves cluster ids e events owner object ∧
      given.length = (e.classified (Engine.counting events)).length ∧
      saved (candidateOf e events owner object id₀ given now) owner now s = (.ok saving, s') ∧
      outcome = .ofSave saving := by
  rcases alone_handleBatch cluster ids e events with ⟨reason, ends⟩ | ends | ⟨owner, object, saves⟩
  · obtain ⟨n₁, skipped⟩ := ends now n s
    rw [skipped] at first
    cases first
    cases filed
  · rw [ends] at first
    cases first
  · obtain ⟨id₀, given, n₁, enough, delivered⟩ := saves now n s room
    rw [delivered] at first
    cases result : saved (candidateOf e events owner object id₀ given now) owner now s with
    | mk left after =>
        rw [result] at first
        cases left with
        | ok saving =>
            cases first
            exact ⟨owner, object, id₀, given, saving, saves, enough, result, rfl⟩
        | error error => cases first

theorem repeatsMerge_of_absorbs {object : InvolvedObject} {given : List String} (n : Nat)
    (saves : Saves cluster ids e events owner object)
    (enough : given.length = (e.classified (Engine.counting events)).length)
    (room : s.size < UInt64.size)
    (absorbs : Absorbs s (candidateOf e events owner object id given now) i) :
    RepeatsMerge cluster ids e events n s i.id := by
  intro nows
  obtain ⟨n', s', j, results, same, last, kept⟩ :=
    deliveries_of_absorbs saves enough nows n s i room absorbs
  exact ⟨n', s', i, j, results, same, absorbs.stored, last, kept⟩

theorem not_repeatsMerge (creates : RepeatCreates cluster ids e events n s) (now : Instant) :
    ¬ RepeatsMerge cluster ids e events n s id := by
  intro merges
  obtain ⟨id', result, n₁, s₁, delivered, created⟩ := creates now
  obtain ⟨n₂, s₂, i, j, results, -⟩ := merges [now]
  simp only [deliveries, delivered, Option.map_some, List.map_cons, List.map_nil,
    Option.some.injEq, Prod.mk.injEq, List.cons.injEq] at results
  have merged := results.1.1
  rcases created with ⟨other, -⟩ | ⟨other, -, -⟩
  · rw [other] at merged
    cases merged
  · rw [other] at merged
    cases merged

end First

/-- A batch that was saved is merged ever after exactly when it was merged at first or some of its
recognised events is a primary cause. Otherwise each repeat creates an incident of its own. -/
theorem repeats_are_merged_iff (cluster : Cluster) (ids : Nat → String) (e : Engine)
    (events : List Event) (now : Instant) (n n' : Nat) (s s' : Store) (outcome : BatchOutcome)
    (id : String) (room : s.size + 1 < UInt64.size)
    (first : alone cluster ids (e.handleBatch events now).run n s = some (.ok outcome, n', s'))
    (filed : filedUnder outcome = some id) :
    (RepeatsMerge cluster ids e events n' s' id ↔
      outcome = .merged id ∨
        ∃ c ∈ e.classified (Engine.counting events), c.meaning.primary = true) ∧
    (¬ (outcome = .merged id ∨
        ∃ c ∈ e.classified (Engine.counting events), c.meaning.primary = true) →
      RepeatCreates cluster ids e events n' s') := by
  obtain ⟨owner, object, id₀, given, saving, saves, enough, result, rfl⟩ :=
    saved_of_filed (by omega) first filed
  have room' : s'.size < UInt64.size := by
    have grown := size_saved_le result
    omega
  cases saving with
  | merged target promoted =>
      cases filed
      obtain ⟨i, same, absorbs⟩ := absorbs_of_merged result
      have merges := same ▸ repeatsMerge_of_absorbs n' saves enough room' absorbs
      exact ⟨⟨fun _ => Or.inl rfl, fun _ => merges⟩, fun neither => absurd (Or.inl rfl) neither⟩
  | created new =>
      cases filed
      have same : id = id₀ := (target?_of_created result).1
      obtain ⟨caused, uncaused⟩ := absorbs_of_created result rfl
      have primary : (candidateOf e events owner object id₀ given now).primaryCause.isSome = true ↔
          ∃ c ∈ e.classified (Engine.counting events), c.meaning.primary = true :=
        primaryCause_candidateOf enough
      by_cases some' : ∃ c ∈ e.classified (Engine.counting events), c.meaning.primary = true
      · have merges := repeatsMerge_of_absorbs n' saves enough room' (caused (primary.2 some'))
        have merges' : RepeatsMerge cluster ids e events n' s' id := same ▸ merges
        exact ⟨⟨fun _ => Or.inr some', fun _ => merges'⟩,
          fun neither => absurd (Or.inr some') neither⟩
      · have neither : ¬ (BatchOutcome.ofSave (.created id) = .merged id ∨
            ∃ c ∈ e.classified (Engine.counting events), c.meaning.primary = true) :=
          fun either => either.elim (fun other => nomatch other) some'
        have creates : RepeatCreates cluster ids e events n' s' :=
          repeatCreates_of_no_target n' saves enough room'
            (uncaused (Option.not_isSome_iff_eq_none.1 fun isSome => some' (primary.1 isSome)))
        exact ⟨⟨fun merges => absurd merges (not_repeatsMerge creates now),
          fun either => absurd either neither⟩, fun _ => creates⟩

/-! ## In a small engine -/

/-- A cluster in which every pod belongs to one stateful set. -/
def oneOwner : Cluster where
  owner := fun _ _ => .ok Sample.owner
  rollout := fun _ _ _ => .error (.failed "")

/-- A different id for each request. -/
def numbered (n : Nat) : String :=
  "id-" ++ toString n

theorem repeats_are_merged_of_primary :
    ∃ n s, alone oneOwner numbered
        (Sample.engine.handleBatch [Sample.event "web-0" "OOMKilled"] .epoch).run 0 .empty =
          some (.ok (.created "id-3"), n, s) ∧
      RepeatsMerge oneOwner numbered Sample.engine [Sample.event "web-0" "OOMKilled"] n s
        "id-3" := by
  have ran : (alone oneOwner numbered
      (Sample.engine.handleBatch [Sample.event "web-0" "OOMKilled"] .epoch).run 0 .empty).map
        (·.1.toOption) = some (some (.created "id-3")) := by decide +kernel
  obtain ⟨⟨result, n, s⟩, first, created⟩ := Option.map_eq_some_iff.1 ran
  cases result with
  | error error => cases created
  | ok outcome =>
      cases created
      have caused : ∃ c ∈ Sample.engine.classified
          (Engine.counting [Sample.event "web-0" "OOMKilled"]), c.meaning.primary = true := by
        decide +kernel
      have merges := (repeats_are_merged_iff oneOwner numbered Sample.engine _ .epoch 0 n .empty s
        (.created "id-3") "id-3" (by decide) first rfl).1
      exact ⟨n, s, first, merges.2 (Or.inr caused)⟩

/-- A batch with nothing but a failing readiness probe, delivered twice, leaves two active incidents
with the same occurrence. -/
theorem unready_batch_creates_again :
    (deliveries oneOwner numbered Sample.engine [Sample.event "web-0" "Unhealthy"]
        [.epoch, Sample.settled] 0 .empty).map
      (fun (results, _, s) => (results.map (·.toOption),
        s.incidents.map fun i => (i.id, i.status, i.keys))) =
    some ([some (.created "id-3"), some (.created "id-15")],
      [("id-3", .active, [⟨"web-0", "default", false, "not ready"⟩]),
        ("id-15", .active, [⟨"web-0", "default", false, "not ready"⟩])]) := by
  decide +kernel

end IncidentWatch.Sequential

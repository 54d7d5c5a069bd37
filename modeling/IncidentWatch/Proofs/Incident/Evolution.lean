import IncidentWatch.Proofs.Incident.Occurrences

/-!
# How incidents evolve

After its creation an incident keeps its id, its release, its chart, its severity,
the instant of its creation and its first primary cause, and its occurrences are only
ever extended at the end. Once it is resolved, nothing but the mark of the last
alert changes. `Incident.Evolves` says so of an earlier and a later record of one
incident; it is a preorder, and the four changes that the engine makes obey it:
marking an alert, counting probes, resolving, and merging into an active incident
that has a primary cause.

`Incident.Sound` is what holds of each record by itself.
-/

set_option autoImplicit false

namespace IncidentWatch

open IncidentEvent

namespace Incident

/-- The keys of the occurrences, in their order. -/
def keys (i : Incident) : List EventKey :=
  i.events.map (·.key)

/-- The identities of the occurrences, in their order. -/
def identities (i : Incident) : List (String × EventKey × Int64) :=
  i.events.map (·.identity)

theorem keys_eq_identities (i : Incident) : i.keys = i.identities.map (·.2.1) := by
  unfold keys identities
  rw [List.map_map]
  rfl

theorem prefix_keys {i j : Incident} (grown : i.identities <+: j.identities) :
    i.keys <+: j.keys := by
  rw [keys_eq_identities, keys_eq_identities]
  exact grown.map _

/-- The first primary cause can be read off the keys. -/
theorem primaryCause_eq_keys (i : Incident) :
    i.primaryCause = (i.keys.find? (·.isPrimaryCause)).map (·.summary) := by
  unfold primaryCause keys
  rw [List.find?_map, Option.map_map]
  rfl

theorem hasPrimaryCause_iff {i : Incident} {cause : String} :
    i.hasPrimaryCause cause = true ↔
      ∃ k ∈ i.keys, k.isPrimaryCause = true ∧ k.summary = cause := by
  simp only [hasPrimaryCause, List.any_eq_true, Bool.and_eq_true, decide_eq_true_eq, keys,
    List.mem_map]
  constructor
  · rintro ⟨e, member, primary, same⟩
    exact ⟨e.key, ⟨e, member, rfl⟩, primary, same⟩
  · rintro ⟨_, ⟨e, member, rfl⟩, primary, same⟩
    exact ⟨e, member, primary, same⟩

/-- The first primary cause is one of the primary causes. -/
theorem hasPrimaryCause_of_primaryCause {i : Incident} {cause : String}
    (first : i.primaryCause = some cause) : i.hasPrimaryCause cause = true := by
  rw [primaryCause_eq_keys, Option.map_eq_some_iff] at first
  obtain ⟨k, found, same⟩ := first
  exact hasPrimaryCause_iff.2 ⟨k, List.mem_of_find?_eq_some found,
    by simpa using List.find?_some found, same⟩

/-- An incident with some primary cause has a first one. -/
theorem primaryCause_isSome {i : Incident} {cause : String}
    (some' : i.hasPrimaryCause cause = true) : i.primaryCause.isSome = true := by
  obtain ⟨k, member, primary, -⟩ := hasPrimaryCause_iff.1 some'
  rw [primaryCause_eq_keys, Option.isSome_map, List.find?_isSome]
  exact ⟨k, member, primary⟩

/-- More occurrences at the end do not change the first primary cause. -/
theorem primaryCause_of_grown {i j : Incident} (grown : i.keys <+: j.keys)
    (some' : i.primaryCause.isSome = true) : j.primaryCause = i.primaryCause := by
  obtain ⟨added, same⟩ := grown
  rw [primaryCause_eq_keys, Option.isSome_map] at some'
  obtain ⟨k, found⟩ := Option.isSome_iff_exists.1 some'
  rw [primaryCause_eq_keys, primaryCause_eq_keys, ← same, List.find?_append, found]
  rfl

/-! ## The preorder of records -/

/-- A later record of an incident. -/
structure Evolves (i j : Incident) : Prop where
  id : j.id = i.id
  releaseName : j.releaseName = i.releaseName
  releaseNamespace : j.releaseNamespace = i.releaseNamespace
  chartName : j.chartName = i.chartName
  severity : j.severity = i.severity
  createdAt : j.createdAt = i.createdAt
  primaryCause : j.primaryCause = i.primaryCause
  identities : i.identities <+: j.identities
  /-- After its resolution, only the mark of the last alert changes. -/
  resolved : i.status = .resolved → j = { i with lastAlerted := j.lastAlerted }

namespace Evolves

theorem refl (i : Incident) : i.Evolves i :=
  ⟨rfl, rfl, rfl, rfl, rfl, rfl, rfl, List.prefix_rfl, fun _ => rfl⟩

theorem trans {i j k : Incident} (first : i.Evolves j) (second : j.Evolves k) : i.Evolves k where
  id := second.id.trans first.id
  releaseName := second.releaseName.trans first.releaseName
  releaseNamespace := second.releaseNamespace.trans first.releaseNamespace
  chartName := second.chartName.trans first.chartName
  severity := second.severity.trans first.severity
  createdAt := second.createdAt.trans first.createdAt
  primaryCause := second.primaryCause.trans first.primaryCause
  identities := first.identities.trans second.identities
  resolved := by
    intro closed
    have middle := first.resolved closed
    have still : j.status = .resolved := by
      rw [middle]
      exact closed
    have last := second.resolved still
    rw [last, middle]

variable {i j : Incident}

theorem releaseKey (evolves : i.Evolves j) : j.releaseKey = i.releaseKey := by
  unfold Incident.releaseKey
  rw [evolves.releaseName, evolves.releaseNamespace]

theorem keys (evolves : i.Evolves j) : i.keys <+: j.keys :=
  prefix_keys evolves.identities

/-- A later record is active only if the earlier one was. -/
theorem active (evolves : i.Evolves j) (now : j.status = .active) : i.status = .active := by
  cases before : i.status with
  | active => rfl
  | resolved =>
      have frozen := evolves.resolved before
      rw [frozen] at now
      exact absurd (before.symm.trans now) (by decide)

end Evolves

/-! ## The changes that the engine makes -/

theorem evolves_marked (i : Incident) (mark : Option Instant) :
    i.Evolves { i with lastAlerted := mark } :=
  ⟨rfl, rfl, rfl, rfl, rfl, rfl, rfl, List.prefix_rfl, fun _ => rfl⟩

section Active

variable {i : Incident} (active : i.status = .active)
include active

theorem not_resolved_of_active : i.status ≠ .resolved := by
  rw [active]
  decide

theorem evolves_counted (retries : UInt32) :
    i.Evolves { i with resolvedRetryCount := retries } :=
  ⟨rfl, rfl, rfl, rfl, rfl, rfl, rfl, List.prefix_rfl,
    fun closed => absurd closed (not_resolved_of_active active)⟩

theorem evolves_resolved (now : Instant) :
    i.Evolves { i with status := .resolved, resolvedTime := some now } :=
  ⟨rfl, rfl, rfl, rfl, rfl, rfl, rfl, List.prefix_rfl,
    fun closed => absurd closed (not_resolved_of_active active)⟩

end Active

/-- A merge changes when an incident was last seen, its occurrences and its scope. -/
theorem merge_eq (target : Incident) (incoming : List IncidentEvent) (owner : OwnerRef)
    (now : Instant) :
    ∃ scope, (target.merge incoming owner now).1 =
      { target with
        lastSeen := now, events := target.absorb incoming, involvedObject := scope } := by
  unfold merge
  dsimp only
  split
  · exact ⟨_, rfl⟩
  · exact ⟨_, rfl⟩

theorem identities_absorb (target : Incident) (incoming : List IncidentEvent) :
    target.identities <+: (target.absorb incoming).map (·.identity) := by
  rw [absorb_eq_recordAll]
  exact prefix_map_recordAll (fun _ _ => rfl) _ _

/-- Merging into an active incident that has a primary cause. -/
theorem evolves_merge {target : Incident} (active : target.status = .active)
    (caused : target.primaryCause.isSome = true) (incoming : List IncidentEvent)
    (owner : OwnerRef) (now : Instant) :
    target.Evolves (target.merge incoming owner now).1 := by
  obtain ⟨scope, same⟩ := target.merge_eq incoming owner now
  have grown : target.identities <+: (target.merge incoming owner now).1.identities := by
    rw [same]
    exact target.identities_absorb incoming
  have cause := primaryCause_of_grown (prefix_keys grown) caused
  rw [same] at grown cause ⊢
  exact ⟨rfl, rfl, rfl, rfl, rfl, rfl, cause, grown,
    fun closed => absurd closed (not_resolved_of_active active)⟩

/-- After a merge, every occurrence of the candidate has its key in the target. -/
theorem mem_keys_merge {target : Incident} {incoming : List IncidentEvent} {owner : OwnerRef}
    {now : Instant} {k : EventKey} :
    k ∈ (target.merge incoming owner now).1.keys ↔
      k ∈ target.keys ∨ k ∈ incoming.map (·.key) := by
  obtain ⟨scope, same⟩ := target.merge_eq incoming owner now
  have renamed : (incoming.map fun e => { e with incidentId := target.id }).map (·.key) =
      incoming.map (·.key) := by
    rw [List.map_map]
    rfl
  rw [same, keys, absorb_eq_recordAll, mem_keys_recordAll, renamed]
  rfl

/-! ## Records by themselves -/

/-- What holds of every record: it has the time of its resolution exactly when it is resolved, and
it has occurrences of its own, of distinct keys. -/
structure Sound (i : Incident) : Prop where
  resolvedTime : i.resolvedTime.isSome = true ↔ i.status = .resolved
  events_ne : i.events ≠ []
  keys_nodup : i.keys.Nodup
  owned : ∀ e ∈ i.events, e.incidentId = i.id

namespace Sound

variable {i : Incident} (sound : i.Sound)
include sound

theorem marked (mark : Option Instant) : Sound { i with lastAlerted := mark } :=
  ⟨sound.resolvedTime, sound.events_ne, sound.keys_nodup, sound.owned⟩

theorem counted (retries : UInt32) : Sound { i with resolvedRetryCount := retries } :=
  ⟨sound.resolvedTime, sound.events_ne, sound.keys_nodup, sound.owned⟩

theorem resolved (now : Instant) :
    Sound { i with status := .resolved, resolvedTime := some now } :=
  ⟨by simp, sound.events_ne, sound.keys_nodup, sound.owned⟩

theorem merge (incoming : List IncidentEvent) (owner : OwnerRef) (now : Instant) :
    (i.merge incoming owner now).1.Sound := by
  obtain ⟨scope, same⟩ := i.merge_eq incoming owner now
  rw [same]
  refine ⟨sound.resolvedTime, ?_, ?_, ?_⟩
  · intro none'
    have grown := i.identities_absorb incoming
    have nothing : i.absorb incoming = [] := none'
    rw [nothing] at grown
    exact sound.events_ne (List.map_eq_nil_iff.1 (List.prefix_nil.1 grown))
  · show ((i.absorb incoming).map (·.key)).Nodup
    rw [absorb_eq_recordAll]
    exact nodup_keys_recordAll _ sound.keys_nodup
  · show ∀ e ∈ i.absorb incoming, e.incidentId = i.id
    rw [absorb_eq_recordAll]
    refine incidentId_recordAll sound.owned fun e member => ?_
    obtain ⟨_, -, rfl⟩ := List.mem_map.1 member
    rfl

end Sound

end Incident

/-- A candidate made of some classified event is sound. -/
theorem Candidate.sound_build (id : String) {ids : List String}
    {classified : List ClassifiedEvent} (owner : OwnerRef) (scope : InvolvedObject)
    (now : Instant) (enough : ids.length = classified.length) (some' : classified ≠ []) :
    (Candidate.build id ids classified owner scope now).Sound := by
  refine ⟨by simp [Candidate.build], ?_, ?_, ?_⟩
  · intro none'
    obtain ⟨c, rest, rfl⟩ := List.exists_cons_of_ne_nil some'
    have member : c.key ∈ (Candidate.occurrences id owner ids (c :: rest)).map (·.key) :=
      (Candidate.mem_keys_occurrences enough).2 (by simp)
    have nothing : Candidate.occurrences id owner ids (c :: rest) = [] := none'
    rw [nothing] at member
    exact absurd member List.not_mem_nil
  · show ((Candidate.occurrences id owner ids classified).map (·.key)).Nodup
    rw [Candidate.occurrences_eq_recordAll]
    exact nodup_keys_recordAll _ List.nodup_nil
  · show ∀ e ∈ Candidate.occurrences id owner ids classified, e.incidentId = id
    rw [Candidate.occurrences_eq_recordAll]
    refine incidentId_recordAll (fun e member => absurd member List.not_mem_nil) fun e member => ?_
    obtain ⟨_, -, rfl⟩ := List.mem_map.1 member
    rfl

end IncidentWatch

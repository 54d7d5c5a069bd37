import IncidentWatch.Engine.Candidate
import Mathlib.Data.List.Nodup

/-!
# Taking in occurrences

Recording an occurrence in a list either refreshes the one of its key or appends
it, so whatever refreshing leaves alone is only ever extended at the end
(`map_recordIn`). The same holds of many occurrences recorded one after the other,
which is how a target absorbs a candidate (`absorb_eq_recordAll`) and how a
candidate gets its own occurrences (`occurrences_eq_recordAll`).
-/

set_option autoImplicit false

namespace IncidentWatch

namespace IncidentEvent

/-- What never changes of a recorded occurrence: its id, its key and the revision it was seen at. -/
def identity (e : IncidentEvent) : String × EventKey × Int64 :=
  (e.id, e.key, e.helmRevision)

/-- Takes occurrences into a list one after the other. -/
def recordAll (later events : List IncidentEvent) : List IncidentEvent :=
  later.foldl (fun events e => e.recordIn events) events

section Fixed

variable {α : Type} {f : IncidentEvent → α} (fixed : ∀ e later, f (e.refresh later) = f e)
include fixed

/-- What refreshing leaves alone is kept, and followed by that of the occurrence if its key is
new. -/
theorem map_recordIn (later : IncidentEvent) (events : List IncidentEvent) :
    (later.recordIn events).map f =
      if later.key ∈ events.map (·.key) then events.map f else events.map f ++ [f later] := by
  induction events with
  | nil => simp [recordIn]
  | cons e rest inductionHypothesis =>
      unfold recordIn
      by_cases here : e.key = later.key
      · simp [here, fixed]
      · have apart : later.key ≠ e.key := Ne.symm here
        simp only [here, if_false, List.map_cons, List.mem_cons, apart, false_or,
          inductionHypothesis]
        split <;> rfl

theorem prefix_map_recordIn (later : IncidentEvent) (events : List IncidentEvent) :
    events.map f <+: (later.recordIn events).map f := by
  rw [map_recordIn fixed]
  split
  · exact List.prefix_rfl
  · exact List.prefix_append _ _

theorem prefix_map_recordAll (later events : List IncidentEvent) :
    events.map f <+: (recordAll later events).map f := by
  induction later generalizing events with
  | nil => exact List.prefix_rfl
  | cons e rest inductionHypothesis =>
      exact (prefix_map_recordIn fixed e events).trans (inductionHypothesis (e.recordIn events))

/-- Occurrences whose keys are all there already change nothing that refreshing leaves alone. -/
theorem map_recordAll_of_known {later events : List IncidentEvent}
    (known : ∀ e ∈ later, e.key ∈ events.map (·.key)) :
    (recordAll later events).map f = events.map f := by
  induction later generalizing events with
  | nil => rfl
  | cons e rest inductionHypothesis =>
      have here : e.key ∈ events.map (·.key) := known e List.mem_cons_self
      have keys : (e.recordIn events).map (·.key) = events.map (·.key) := by
        rw [map_recordIn (fun _ _ => rfl), if_pos here]
      have kept : (e.recordIn events).map f = events.map f := by
        rw [map_recordIn fixed, if_pos here]
      rw [← kept]
      refine inductionHypothesis fun other member => ?_
      rw [keys]
      exact known other (List.mem_cons_of_mem e member)

end Fixed

/-! ## Keys -/

/-- The keys after recording are those before it and those recorded. -/
theorem mem_keys_recordAll {later events : List IncidentEvent} {k : EventKey} :
    k ∈ (recordAll later events).map (·.key) ↔
      k ∈ events.map (·.key) ∨ k ∈ later.map (·.key) := by
  induction later generalizing events with
  | nil => simp [recordAll]
  | cons e rest inductionHypothesis =>
      have step : k ∈ (e.recordIn events).map (·.key) ↔ k ∈ events.map (·.key) ∨ k = e.key := by
        rw [map_recordIn (fun _ _ => rfl)]
        split
        · rename_i here
          exact ⟨Or.inl, fun known => known.elim (fun old => old) fun same => same ▸ here⟩
        · rw [List.mem_append, List.mem_singleton]
      have rest' : k ∈ (recordAll (e :: rest) events).map (·.key) ↔
          k ∈ (e.recordIn events).map (·.key) ∨ k ∈ rest.map (·.key) := inductionHypothesis
      rw [rest', step, List.map_cons, List.mem_cons, or_assoc]

/-- The keys after recording depend on nothing but the keys before it and those recorded. -/
theorem keys_recordAll_congr {later later' events events' : List IncidentEvent}
    (recorded : later.map (·.key) = later'.map (·.key))
    (before : events.map (·.key) = events'.map (·.key)) :
    (recordAll later events).map (·.key) = (recordAll later' events').map (·.key) := by
  induction later generalizing later' events events' with
  | nil =>
      have none' : later' = [] := List.map_eq_nil_iff.1 recorded.symm
      subst none'
      exact before
  | cons e rest inductionHypothesis =>
      obtain ⟨e', rest', rfl, same, others⟩ := List.map_eq_cons_iff.1 recorded.symm
      have step : (e.recordIn events).map (·.key) = (e'.recordIn events').map (·.key) := by
        have here : e.key = e'.key := same.symm
        rw [map_recordIn (fun _ _ => rfl), map_recordIn (fun _ _ => rfl), before, here]
      have further := inductionHypothesis others.symm step
      exact further

theorem nodup_keys_recordIn (later : IncidentEvent) {events : List IncidentEvent}
    (unique : (events.map (·.key)).Nodup) : ((later.recordIn events).map (·.key)).Nodup := by
  rw [map_recordIn (fun _ _ => rfl)]
  split
  · exact unique
  · rename_i absent
    exact List.nodup_append.2 ⟨unique, List.nodup_singleton _, by
      rintro a member b single rfl
      exact absent (List.mem_singleton.1 single ▸ member)⟩

/-- Recording keeps the keys distinct. -/
theorem nodup_keys_recordAll (later : List IncidentEvent) {events : List IncidentEvent}
    (unique : (events.map (·.key)).Nodup) : ((recordAll later events).map (·.key)).Nodup := by
  induction later generalizing events with
  | nil => exact unique
  | cons e rest inductionHypothesis => exact inductionHypothesis (nodup_keys_recordIn e unique)

/-! ## The incident that occurrences belong to -/

/-- Recorded occurrences belong to an incident when those before and those recorded do. -/
theorem incidentId_recordAll {later events : List IncidentEvent} {id : String}
    (before : ∀ e ∈ events, e.incidentId = id) (recorded : ∀ e ∈ later, e.incidentId = id) :
    ∀ e ∈ recordAll later events, e.incidentId = id := by
  induction later generalizing events with
  | nil => exact before
  | cons e rest inductionHypothesis =>
      refine inductionHypothesis ?_ fun other member =>
        recorded other (List.mem_cons_of_mem e member)
      intro other member
      have listed : other.incidentId ∈ (e.recordIn events).map (·.incidentId) :=
        List.mem_map_of_mem member
      rw [map_recordIn (fun _ _ => rfl)] at listed
      have known : ∀ x ∈ events.map (·.incidentId), x = id := by
        intro x memberX
        obtain ⟨old, memberOld, rfl⟩ := List.mem_map.1 memberX
        exact before old memberOld
      split at listed
      · exact known _ listed
      · rcases List.mem_append.1 listed with inOld | new
        · exact known _ inOld
        · rw [List.mem_singleton.1 new]
          exact recorded e List.mem_cons_self

end IncidentEvent

open IncidentEvent

/-! ## Targets and candidates -/

theorem Incident.absorb_eq_recordAll (target : Incident) (incoming : List IncidentEvent) :
    target.absorb incoming =
      recordAll (incoming.map fun e => { e with incidentId := target.id }) target.events := by
  unfold Incident.absorb recordAll
  rw [List.foldl_map]

/-- The key of the occurrence of a classified event. -/
def ClassifiedEvent.key (c : ClassifiedEvent) : EventKey :=
  ⟨c.event.podName, c.event.podNamespace, c.meaning.primary, c.meaning.summary⟩

theorem Candidate.occurrences_eq_recordAll (incidentId : String) (owner : OwnerRef)
    (ids : List String) (classified : List ClassifiedEvent) :
    Candidate.occurrences incidentId owner ids classified =
      recordAll ((ids.zip classified).map fun pair =>
        Candidate.occurrence incidentId owner pair.1 pair.2) [] := by
  unfold Candidate.occurrences recordAll
  rw [List.foldl_map]

theorem Candidate.keys_zip {incidentId : String} {owner : OwnerRef} {ids : List String}
    {classified : List ClassifiedEvent} (enough : ids.length = classified.length) :
    ((ids.zip classified).map fun pair =>
      Candidate.occurrence incidentId owner pair.1 pair.2).map (·.key) =
        classified.map (·.key) := by
  rw [List.map_map]
  conv_rhs => rw [← List.map_snd_zip (Nat.le_of_eq enough.symm), List.map_map]
  rfl

/-- The keys of a candidate do not depend on the ids. -/
theorem Candidate.keys_occurrences_congr {incidentId incidentId' : String} {owner : OwnerRef}
    {ids ids' : List String} {classified : List ClassifiedEvent}
    (enough : ids.length = classified.length) (enough' : ids'.length = classified.length) :
    (Candidate.occurrences incidentId owner ids classified).map (·.key) =
      (Candidate.occurrences incidentId' owner ids' classified).map (·.key) := by
  rw [Candidate.occurrences_eq_recordAll, Candidate.occurrences_eq_recordAll]
  exact keys_recordAll_congr
    ((Candidate.keys_zip enough).trans (Candidate.keys_zip enough').symm) rfl

/-- A candidate has the keys of its classified events. -/
theorem Candidate.mem_keys_occurrences {incidentId : String} {owner : OwnerRef}
    {ids : List String} {classified : List ClassifiedEvent}
    (enough : ids.length = classified.length) {k : EventKey} :
    k ∈ (Candidate.occurrences incidentId owner ids classified).map (·.key) ↔
      k ∈ classified.map (·.key) := by
  rw [Candidate.occurrences_eq_recordAll, mem_keys_recordAll, Candidate.keys_zip enough]
  simp

end IncidentWatch

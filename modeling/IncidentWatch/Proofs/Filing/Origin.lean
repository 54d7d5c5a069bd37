import IncidentWatch.Proofs.Filing.Scope

/-!
# The pod that an incident is named after

A new incident that is not scoped to the owner of its pods is named after one pod, that of
the first event that counts of its batch. Its occurrences are those of the events that the
rules recognise, and which these are does not matter for the choice of the pod.

So the pod is among those of the occurrences exactly when some recognised event of the batch
is of that pod, the first or another one (`new_incident_names_its_pod_iff`). When the first
event means nothing to the rules, the incident is named after a pod that nothing is known
against (`unrecognized_pod_names_the_incident`).
-/

set_option autoImplicit false

namespace IncidentWatch

/-- The pod of an event: its namespace and its name. -/
def Event.pod (event : Event) : String × String :=
  (event.podNamespace, event.podName)

/-- The pod of an occurrence: its namespace and its name. -/
def IncidentEvent.pod (occurrence : IncidentEvent) : String × String :=
  (occurrence.podNamespace, occurrence.podName)

/-- A candidate has the pods of its classified events, and no others. -/
theorem Candidate.exists_occurrence_iff {incidentId : String} {owner : OwnerRef}
    {ids : List String} {classified : List ClassifiedEvent}
    (enough : ids.length = classified.length) {pod : String × String} :
    (∃ o ∈ occurrences incidentId owner ids classified, o.pod = pod) ↔
      ∃ c ∈ classified, c.event.pod = pod := by
  let podOf : EventKey → String × String := fun k => (k.podNamespace, k.podName)
  have keys : ∀ k, k ∈ (occurrences incidentId owner ids classified).map (·.key) ↔
      k ∈ classified.map (·.key) := fun k => mem_keys_occurrences enough
  constructor
  · rintro ⟨o, among, rfl⟩
    obtain ⟨c, recognized, same⟩ := List.mem_map.1 ((keys o.key).1 (List.mem_map_of_mem among))
    exact ⟨c, recognized, congrArg podOf same⟩
  · rintro ⟨c, recognized, rfl⟩
    obtain ⟨o, among, same⟩ := List.mem_map.1 ((keys c.key).2 (List.mem_map_of_mem recognized))
    exact ⟨o, among, congrArg podOf same⟩

namespace Engine

/-- The recognised events are those that the rules have a meaning for. -/
theorem exists_classified_iff {e : Engine} {events : List Event} {P : Event → Prop} :
    (∃ c ∈ e.classified events, P c.event) ↔
      ∃ event ∈ events, (e.classifier.classify event).isSome = true ∧ P event := by
  unfold classified
  constructor
  · rintro ⟨c, member, holds⟩
    obtain ⟨event, among, recognized⟩ := List.mem_filterMap.1 member
    obtain ⟨meaning, known, rfl⟩ := Option.map_eq_some_iff.1 recognized
    exact ⟨event, among, by rw [known]; rfl, holds⟩
  · rintro ⟨event, among, known, holds⟩
    obtain ⟨meaning, known⟩ := Option.isSome_iff_exists.1 known
    exact ⟨⟨event, meaning⟩, List.mem_filterMap.2 ⟨event, among, by rw [known]; rfl⟩, holds⟩

/-- As long as only one batch was saved into it, an incident has the pods of the events that were
recognised of that batch. -/
def Implicates (e : Engine) (i : Incident) : List Saved → Prop
  | [] => False
  | [creator] => ∀ pod, (∃ o ∈ i.events, o.pod = pod) ↔
      ∃ event ∈ counting creator.events,
        (e.classifier.classify event).isSome = true ∧ event.pod = pod
  | _ :: _ :: _ => True

theorem accounts_implicates (e : Engine) : e.Accounts e.Implicates := by
  refine ⟨?_, ?_, ?_⟩
  · intro b i files pod
    obtain ⟨-, id, ids, object, enough, rfl⟩ := files.isCandidate
    exact (Candidate.exists_occurrence_iff enough).trans
      (exists_classified_iff (P := fun event => event.pod = pod))
  · intro b i j saves folds evolves implicates
    cases saves with
    | nil => exact implicates.elim
    | cons creator earlier => trivial
  · intro now stage i j saves change implicates
    match saves with
    | [] => exact implicates
    | [creator] =>
        show ∀ pod, (∃ o ∈ j.events, o.pod = pod) ↔ _
        rw [change.unmoved.2.1]
        exact implicates
    | _ :: _ :: _ => trivial

end Engine

namespace Interleaving

open IncidentWatch.Interleaving.System

/-- Every incident was created by a batch. As long as nothing was merged into it, it is scoped to
the owner that the batch was told, if that is a job or a failing deployment, and else to the pod of
the first event that counts. In that case an occurrence of it is of that pod exactly when some event
that counts is of that pod and recognised by the rules; so it is whenever the first event is. -/
theorem new_incident_names_its_pod_iff (e : Engine) (schedule : List Turn) (i : Incident)
    (stored : i ∈ (after e schedule).store.incidents) :
    ∃ latest earlier, savedUnder i.id (after e schedule).history = latest :: earlier ∧
      (earlier = [] → ∃ first, (Engine.counting latest.events).head? = some first ∧
        (latest.takesScope = true → i.involvedObject = latest.owner.involvedObject) ∧
        (latest.takesScope = false →
          i.involvedObject = ⟨.pod, first.podName, first.podNamespace⟩ ∧
          ((∃ o ∈ i.events, o.pod = first.pod) ↔
            ∃ event ∈ Engine.counting latest.events,
              (e.classifier.classify event).isSome = true ∧ event.pod = first.pod) ∧
          ((e.classifier.classify first).isSome = true → ∃ o ∈ i.events, o.pod = first.pod))) := by
  have placed := accounts_after e.accounts_scopedBy schedule stored
  have implicates := accounts_after e.accounts_implicates schedule stored
  cases saves : savedUnder i.id (after e schedule).history with
  | nil =>
      rw [saves] at placed
      exact placed.elim
  | cons latest earlier =>
      refine ⟨latest, earlier, rfl, ?_⟩
      rintro rfl
      rw [saves] at placed implicates
      obtain ⟨first, head, scope⟩ := placed
      refine ⟨first, head, fun takes => ?_, fun leaves => ⟨?_, implicates first.pod,
        fun known => ?_⟩⟩
      · rw [scope, Saved.scopeFor, if_pos takes]
      · rw [scope, Saved.scopeFor, leaves]
        rfl
      · exact (implicates first.pod).2 ⟨first, List.mem_of_head? head, known, rfl⟩

/-- A pod has an event that no rule recognises and then one that is recognised, and another pod is
killed in between. -/
def recognizedLater : List Turn :=
  Sample.runningWith (Sample.deployed 2 "a") 0
    (.batch [Sample.event "web-0" "Mystery", Sample.event "web-1" "OOMKilled",
      Sample.event "web-0" "BackOff"] .epoch) 18

theorem new_incident_names_its_pod_iff_of_recognizedLater :
    ∃ i ∈ (after Sample.engine recognizedLater).store.incidents,
      i.involvedObject = ⟨.pod, "web-0", "default"⟩ ∧
      ∃ o ∈ i.events, o.pod = ("default", "web-0") := by
  have record : ((after Sample.engine recognizedLater).store.get? "a").isSome = true := by
    decide +kernel
  have batches : (savedUnder "a" (after Sample.engine recognizedLater).history).map
      (fun b => (b.takesScope, b.events)) =
        [(false, [Sample.event "web-0" "Mystery", Sample.event "web-1" "OOMKilled",
          Sample.event "web-0" "BackOff"])] := by decide +kernel
  obtain ⟨i, found⟩ := Option.isSome_iff_exists.1 record
  obtain ⟨stored, id⟩ := Store.get?_eq_some_iff.1 found
  obtain ⟨latest, earlier, saves, new⟩ :=
    new_incident_names_its_pod_iff Sample.engine recognizedLater i stored
  rw [← id, saves] at batches
  obtain ⟨told, nothing⟩ := List.cons.inj batches
  obtain ⟨leaves, events⟩ := Prod.mk.inj told
  obtain ⟨first, head, -, scope⟩ := new (List.map_eq_nil_iff.1 nothing)
  rw [events] at head scope
  have origin : first = Sample.event "web-0" "Mystery" := (Option.some.inj head).symm
  subst origin
  obtain ⟨named, implicates, -⟩ := scope leaves
  exact ⟨i, stored, named, implicates.2
    ⟨Sample.event "web-0" "BackOff", by decide, by decide +kernel, rfl⟩⟩

/-- A pod has an event that no rule recognises, before a pod that is killed. -/
def unrecognizedFirst : List Turn :=
  Sample.runningWith (Sample.deployed 2 "a") 0
    (.batch [Sample.event "web-0" "Mystery", Sample.event "web-1" "OOMKilled"] .epoch) 18

/-- An incident can be named after a pod that none of its occurrences is of. -/
theorem unrecognized_pod_names_the_incident :
    ∃ i ∈ (after Sample.engine unrecognizedFirst).store.incidents,
      i.involvedObject = ⟨.pod, "web-0", "default"⟩ ∧
      (savedUnder i.id (after Sample.engine unrecognizedFirst).history).map (·.takesScope) =
        [false] ∧
      i.events.map (·.pod) = [("default", "web-1")] := by
  decide +kernel

end Interleaving

end IncidentWatch

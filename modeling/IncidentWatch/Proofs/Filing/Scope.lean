import IncidentWatch.Proofs.Filing.Saves
import IncidentWatch.Proofs.Incident.Merging
import IncidentWatch.Proofs.Interleaving.Sample

/-!
# The scope of an incident

The scope of an incident is decided twice. The batch that creates it scopes it to the owner
of its pods if that is a job or a failing deployment, and else to the pod of its first
event, however many pods it names. A batch that is merged into it scopes it to its own owner
once the occurrences name more than one pod.

So an incident of several pods is scoped to the owner of its latest batch, unless that is
the one that created it and has left it with a pod (`several_pods_are_scoped_to_owner`).
-/

set_option autoImplicit false

namespace IncidentWatch

namespace Incident

variable {i : Incident}

theorem one_lt_distinctPods {a b : IncidentEvent} (among : a ∈ i.events) (among' : b ∈ i.events)
    (apart : (a.podNamespace, a.podName) ≠ (b.podNamespace, b.podName)) : 1 < i.distinctPods :=
  one_lt_distinctPods_iff.2 ⟨a, among, b, among', apart⟩

/-- Merging scopes an incident of several pods to the owner. -/
theorem involvedObject_merge {target : Incident} {incoming : List IncidentEvent} {owner : OwnerRef}
    {now : Instant} (several : 1 < (target.merge incoming owner now).1.distinctPods) :
    (target.merge incoming owner now).1.involvedObject = owner.involvedObject :=
  (scope_merge target incoming owner now).1 (one_lt_distinctPods_iff.1 several)

/-- How an incident is scoped by the batches that were saved into it. -/
def ScopedBy (i : Incident) : List Saved → Prop
  | [] => False
  | [creator] => ∃ first, (Engine.counting creator.events).head? = some first ∧
      i.involvedObject = creator.scopeFor first
  | latest :: _ :: _ => 1 < i.distinctPods → i.involvedObject = latest.owner.involvedObject

end Incident

namespace Engine

variable {e : Engine}

theorem accounts_scopedBy (e : Engine) : e.Accounts Incident.ScopedBy := by
  refine ⟨fun files => files.scope, ?_, ?_⟩
  · intro b i j saves folds evolves placed
    obtain ⟨candidate, files, target, rfl⟩ := folds
    cases saves with
    | nil => exact placed.elim
    | cons creator earlier => exact Incident.involvedObject_merge
  · intro now stage i j saves change placed
    obtain ⟨object, events, -⟩ := change.unmoved
    have pods : j.distinctPods = i.distinctPods := by
      rw [Incident.distinctPods, Incident.pods, events]
      rfl
    match saves with
    | [] => exact placed
    | [creator] =>
        show ∃ first, _ ∧ j.involvedObject = _
        rw [object]
        exact placed
    | latest :: _ :: _ =>
        show 1 < j.distinctPods → j.involvedObject = _
        rw [object, pods]
        exact placed

end Engine

namespace Interleaving

open IncidentWatch.Interleaving.System

/-- An incident of several pods is scoped to the owner that its latest batch was told, if it was
merged into the incident, or created it for a job or a failing deployment. Any other incident into
which nothing was merged is scoped to the pod of the first event that counts of its batch. -/
theorem several_pods_are_scoped_to_owner (e : Engine) (schedule : List Turn) (i : Incident)
    (stored : i ∈ (after e schedule).store.incidents) (a b : IncidentEvent) (among : a ∈ i.events)
    (among' : b ∈ i.events) (apart : (a.podNamespace, a.podName) ≠ (b.podNamespace, b.podName)) :
    ∃ latest earlier, savedUnder i.id (after e schedule).history = latest :: earlier ∧
      (earlier ≠ [] ∨ latest.takesScope = true →
        i.involvedObject = latest.owner.involvedObject) ∧
      (earlier = [] → latest.takesScope = false →
        ∃ first, (Engine.counting latest.events).head? = some first ∧
          i.involvedObject = ⟨.pod, first.podName, first.podNamespace⟩) := by
  have several := Incident.one_lt_distinctPods among among' apart
  have placed := accounts_after e.accounts_scopedBy schedule stored
  match saves : savedUnder i.id (after e schedule).history with
  | [] =>
      rw [saves] at placed
      exact placed.elim
  | [creator] =>
      rw [saves] at placed
      obtain ⟨first, head, scope⟩ := placed
      refine ⟨creator, [], rfl, ?_, ?_⟩
      · rintro (merged | takes)
        · exact absurd rfl merged
        · rw [scope, Saved.scopeFor, if_pos takes]
      · intro _ leaves
        refine ⟨first, head, ?_⟩
        rw [scope, Saved.scopeFor, leaves]
        rfl
  | latest :: before :: earlier =>
      rw [saves] at placed
      exact ⟨latest, before :: earlier, rfl, fun _ => placed several,
        fun nothing => absurd nothing (List.cons_ne_nil before earlier)⟩

/-- A pod of a healthy deployment fails, and then another one. -/
def podAfterPod : List Turn :=
  Sample.runningWith (Sample.deployed 2 "a") 0 (.batch [Sample.event "web-0" "OOMKilled"] .epoch) 15
    ++ Sample.runningWith (Sample.deployed 2 "b") 1
      (.batch [Sample.event "web-1" "OOMKilled"] (Sample.afterSeconds 60)) 16

theorem several_pods_are_scoped_to_owner_after_merge :
    ∃ i ∈ (after Sample.engine podAfterPod).store.incidents, i.id = "a" ∧
      i.involvedObject = ⟨.deployment, "web", "default"⟩ := by
  have record : ((after Sample.engine podAfterPod).store.get? "a").map
      (fun i => i.events.map (·.podName)) = some ["web-0", "web-1"] := by decide +kernel
  have owners : (savedUnder "a" (after Sample.engine podAfterPod).history).map (·.owner) =
      [Sample.deployment, Sample.deployment] := by decide +kernel
  obtain ⟨i, stored, pods⟩ := Option.map_eq_some_iff.1 record
  obtain ⟨member, id⟩ := Store.get?_eq_some_iff.1 stored
  obtain ⟨a, rest, events, first, others⟩ := List.map_eq_cons_iff.1 pods
  obtain ⟨b, none', rest', second, -⟩ := List.map_eq_cons_iff.1 others
  have apart : (a.podNamespace, a.podName) ≠ (b.podNamespace, b.podName) := by
    rw [first, second]
    intro same
    exact absurd (Prod.mk.inj same).2 (by decide)
  obtain ⟨latest, earlier, saves, scope, -⟩ :=
    several_pods_are_scoped_to_owner Sample.engine podAfterPod i member a b (by simp [events])
      (by simp [events, rest']) apart
  rw [← id, saves] at owners
  have owner : latest.owner = Sample.deployment := (List.cons.inj owners).1
  have merged : earlier ≠ [] := by
    rintro rfl
    cases (List.cons.inj owners).2
  refine ⟨i, member, id, ?_⟩
  rw [scope (Or.inl merged), owner]
  rfl

/-- Two pods of a healthy deployment fail at once. -/
def twoPodsAtOnce : List Turn :=
  Sample.runningWith (Sample.deployed 2 "a") 0
    (.batch [Sample.event "web-0" "OOMKilled", Sample.event "web-1" "OOMKilled"] .epoch) 18

/-- One batch of two pods is scoped to the first of them, not to the owner that it was told. -/
theorem two_pods_at_once_are_scoped_to_pod :
    ∃ i ∈ (after Sample.engine twoPodsAtOnce).store.incidents, ∃ latest,
      (savedUnder i.id (after Sample.engine twoPodsAtOnce).history).head? = some latest ∧
      i.distinctPods = 2 ∧ i.involvedObject ≠ latest.owner.involvedObject := by
  have record : ((after Sample.engine twoPodsAtOnce).store.get? "a").map
      (fun i => (i.distinctPods, i.involvedObject)) = some (2, ⟨.pod, "web-0", "default"⟩) := by
    decide +kernel
  have owners : (savedUnder "a" (after Sample.engine twoPodsAtOnce).history).head?.map (·.owner) =
      some Sample.deployment := by decide +kernel
  obtain ⟨i, stored, same⟩ := Option.map_eq_some_iff.1 record
  obtain ⟨member, id⟩ := Store.get?_eq_some_iff.1 stored
  obtain ⟨two, scope⟩ := Prod.mk.inj same
  obtain ⟨latest, head, owner⟩ := Option.map_eq_some_iff.1 owners
  refine ⟨i, member, latest, by rw [id]; exact head, two, ?_⟩
  rw [scope, owner]
  decide

end Interleaving

end IncidentWatch

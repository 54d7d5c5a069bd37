import IncidentWatch.Proofs.Batch.Handling
import IncidentWatch.Proofs.Course.Stage

/-!
# What a batch comes to

Of the reasons to skip a batch the first one that applies is told: nothing is more than a
notice; nothing that is more names its pod; the owner of the first event that counts is not
told; no event that counts is recognised. A batch that is skipped leaves the store alone.

Any other batch comes to a candidate, and unless the store has an error to tell, that leads
to a single write: the candidate is created where nothing in the store matches it, and else
merged into the first match. There is one way around this write. The health of a deployment
is compared in machine words, and numbers whose difference lies outside the words break the
batch off (`batch_outcomes`).
-/

set_option autoImplicit false

namespace IncidentWatch.Sequential

open Interleaving

variable {c : Nat → Collaborators} {e : Engine} {events : List Event} {now : Instant} {s : Store}
  {owner : OwnerRef} {candidate : Incident} {reason : SkipReason} {calls : List Exchange}
  {talk : Conversation (Except EngineError BatchOutcome)}

/-! ## Skipped batches -/

theorem not_skipped_of_map {result : Except EngineError SaveOutcome} :
    result.map BatchOutcome.ofSave ≠ .ok (.skipped reason) := by
  cases result with
  | error error => exact nofun
  | ok outcome => cases outcome <;> exact nofun

/-- What the cluster was asked first is the owner of an event's pod, with this answer. -/
def OwnerTold (e : Engine) (first : Event) (answer : Except QueryError OwnerRef)
    (xs : List Exchange) : Prop :=
  (clusterCalls xs).head? = some ⟨.owner first.podRef e.settings.queryLimit, answer⟩

/-- What there is to say for a reason to skip a batch. -/
def Warrants (e : Engine) (events : List Event) (xs : List Exchange) : SkipReason → Prop
  | .allLowSeverity => ∀ event ∈ events, event.severity = .low
  | .missingPod => (∃ event ∈ events, event.severity ≠ .low) ∧ ∀ event ∈ events, ¬ event.Counts
  | .ownerUnresolved => ∃ first error,
      (events.find? fun event => event.Counts) = some first ∧ OwnerTold e first (.error error) xs
  | .unclassified => ∃ first owner,
      (events.find? fun event => event.Counts) = some first ∧ OwnerTold e first (.ok owner) xs ∧
        ∀ event ∈ events, event.Counts → e.classifier.classify event = none

theorem classified_eq_nil_iff :
    e.classified (Engine.counting events) = [] ↔
      ∀ event ∈ events, event.Counts → e.classifier.classify event = none := by
  unfold Engine.classified
  rw [List.filterMap_eq_nil_iff, Engine.counting_eq_filter]
  simp

/-- There is something to say for one reason at most. -/
theorem Warrants.unique {xs : List Exchange} {reason' : SkipReason}
    (warrants : Warrants e events xs reason) (warrants' : Warrants e events xs reason') :
    reason = reason' := by
  cases reason <;> cases reason' <;>
    first | rfl | grind [Warrants, OwnerTold, counts_of_find?, Event.Counts]

/-- There is nothing to say for a reason once the owner is told and an event is recognised. -/
theorem not_warrants {xs : List Exchange} {first : Event}
    (found : (events.find? fun event => event.Counts) = some first)
    (told : OwnerTold e first (.ok owner) xs)
    (some' : e.classified (Engine.counting events) ≠ []) : ¬ Warrants e events xs reason := by
  obtain ⟨member, counts⟩ := counts_of_find? found
  intro warrants
  cases reason with
  | allLowSeverity => exact counts.1 (warrants first member)
  | missingPod => exact warrants.2 first member counts
  | ownerUnresolved =>
      obtain ⟨first', error, found', told'⟩ := warrants
      cases found.symm.trans found'
      cases told.symm.trans told'
  | unclassified =>
      obtain ⟨-, -, -, -, none'⟩ := warrants
      exact some' (classified_eq_nil_iff.2 none')

theorem Skips.skipped_iff {reason' : SkipReason} (skips : Skips s reason calls talk)
    (warrants : Warrants e events talk.exchanges reason) :
    talk.result = some (.ok (.skipped reason')) ↔ Warrants e events talk.exchanges reason' := by
  constructor
  · intro ends
    exact skips.reason_eq ends ▸ warrants
  · intro warrants'
    rw [skips.result_eq, warrants.unique warrants']

theorem Handling.skipped_iff (handling : Handling c e events now s talk) :
    talk.result = some (.ok (.skipped reason)) ↔ Warrants e events talk.exchanges reason := by
  cases handling with
  | insignificant low skips => exact skips.skipped_iff low
  | podless some' none' skips =>
      refine skips.skipped_iff ⟨by simpa using some', fun event member counts => ?_⟩
      exact List.find?_eq_none.1 none' event member (decide_eq_true counts)
  | ownerless found skips =>
      exact skips.skipped_iff ⟨_, _, found, congrArg List.head? skips.calls_eq⟩
  | unrecognized found none' skips =>
      exact skips.skipped_iff ⟨_, _, found, congrArg List.head? skips.calls_eq,
        classified_eq_nil_iff.1 none'⟩
  | faulty found some' calls ill apart =>
      have told : OwnerTold e _ (.ok _) _ := congrArg List.head? calls
      exact ⟨nofun, fun warrants => absurd warrants (not_warrants found told some')⟩
  | saved found some' calls well enough fresh stores =>
      have told : OwnerTold e _ (.ok _) _ := congrArg List.head? calls
      refine ⟨fun ends => ?_, fun warrants => absurd warrants (not_warrants found told some')⟩
      exact absurd (Option.some.inj ends) not_skipped_of_map

/-- A batch that is skipped leaves the store alone. -/
theorem Handling.leaves_store (handling : Handling c e events now s talk)
    (ends : talk.result = some (.ok (.skipped reason))) :
    Apart talk.exchanges ∧ talk.store = s := by
  cases handling with
  | insignificant low skips => exact skips.leaves_store
  | podless some' none' skips => exact skips.leaves_store
  | ownerless found skips => exact skips.leaves_store
  | unrecognized found none' skips => exact skips.leaves_store
  | faulty found some' calls ill apart => cases ends
  | saved found some' calls well enough fresh stores =>
      exact absurd (Option.some.inj ends) not_skipped_of_map

/-- Of a batch in which something counts, the owner of the first event that does is asked for. -/
theorem Handling.ownerTold (handling : Handling c e events now s talk) {first : Event}
    (found : (events.find? fun event => event.Counts) = some first) :
    ∃ answer, OwnerTold e first answer talk.exchanges := by
  cases handling with
  | insignificant low skips =>
      obtain ⟨member, counts⟩ := counts_of_find? found
      exact absurd (low first member) counts.1
  | podless some' none' skips =>
      rw [none'] at found
      cases found
  | ownerless found' skips =>
      cases found.symm.trans found'
      exact ⟨_, congrArg List.head? skips.calls_eq⟩
  | unrecognized found' none' skips =>
      cases found.symm.trans found'
      exact ⟨_, congrArg List.head? skips.calls_eq⟩
  | faulty found' some' calls ill apart =>
      cases found.symm.trans found'
      exact ⟨_, congrArg List.head? calls⟩
  | saved found' some' calls well enough fresh stores =>
      cases found.symm.trans found'
      exact ⟨_, congrArg List.head? calls⟩

/-! ## Other batches -/

/-- The store was written to once: the candidate was created, where nothing matches it, or merged
into the first match. -/
inductive Files (s : Store) (candidate : Incident) (owner : OwnerRef) (now : Instant) :
    Conversation (Except EngineError BatchOutcome) → Prop
  | created {xs : List Exchange} {s' : Store} (none' : ∀ i ∈ s.incidents, ¬ Matches candidate i)
      (writes : storeWrites xs = [⟨.create candidate, .ok ()⟩])
      (created : s.create candidate = .ok s') :
      Files s candidate owner now ⟨xs, some (.ok (.created candidate.id)), s'⟩
  | merged {xs : List Exchange} {s' : Store} {target : Incident}
      (found : (s.incidents.find? fun i => Matches candidate i) = some target)
      (writes : storeWrites xs = [⟨.update (target.merge candidate.events owner now).1, .ok ()⟩])
      (updated : s.update (target.merge candidate.events owner now).1 = .ok s') :
      Files s candidate owner now ⟨xs, some (.ok (.merged target.id)), s'⟩

theorem Stores.files {xs : List Exchange} {result : Except EngineError SaveOutcome} {s' : Store}
    (stores : Stores c s candidate owner now ⟨xs, some result, s'⟩)
    (granted : ∀ x ∈ xs, x.failure? = none) :
    Files s candidate owner now ⟨xs, some (result.map .ofSave), s'⟩ := by
  cases stores with
  | refused fails cause =>
      obtain ⟨x, member, failing⟩ := fails
      rw [granted x member] at failing
      cases failing
  | created none' writes created =>
      refine .created (fun i member matched => ?_) writes created
      exact List.find?_eq_none.1 none' i member (decide_eq_true matched)
  | merged found writes updated => exact .merged found writes updated

/-- The owner of the first event that counts is asked for, if there is one. A batch is skipped for
the first reason that applies, and then the store is left alone. Any other batch leads, unless a
call of the store fails, to one write for its candidate, or breaks off before that because the
health of the owner's deployment cannot be compared. -/
theorem batch_outcomes (c : Nat → Collaborators) (e : Engine) (events : List Event) (now : Instant)
    (n : Nat) (s : Store) (room : s.size < UInt64.size) :
    let talk := converse c (e.handleBatch events now).run n s
    (∀ first, (events.find? fun event => event.Counts) = some first →
      ∃ answer, OwnerTold e first answer talk.exchanges) ∧
    (talk.result = some (.ok (.skipped .allLowSeverity)) ↔
      ∀ event ∈ events, event.severity = .low) ∧
    (talk.result = some (.ok (.skipped .missingPod)) ↔
      (∃ event ∈ events, event.severity ≠ .low) ∧ ∀ event ∈ events, ¬ event.Counts) ∧
    (talk.result = some (.ok (.skipped .ownerUnresolved)) ↔
      ∃ first error, (events.find? fun event => event.Counts) = some first ∧
        OwnerTold e first (.error error) talk.exchanges) ∧
    (talk.result = some (.ok (.skipped .unclassified)) ↔
      ∃ first owner, (events.find? fun event => event.Counts) = some first ∧
        OwnerTold e first (.ok owner) talk.exchanges ∧
        ∀ event ∈ events, event.Counts → e.classifier.classify event = none) ∧
    (∀ reason, talk.result = some (.ok (.skipped reason)) →
      Apart talk.exchanges ∧ talk.store = s) ∧
    ((∀ reason, talk.result ≠ some (.ok (.skipped reason))) →
      ∃ first owner answer, (events.find? fun event => event.Counts) = some first ∧
        clusterCalls talk.exchanges =
          ⟨.owner first.podRef e.settings.queryLimit, .ok owner⟩ :: healthCalls e owner answer ∧
        (Incomparable owner answer →
          talk.result = none ∧ Apart talk.exchanges ∧ talk.store = s) ∧
        (¬ Incomparable owner answer → (∀ x ∈ talk.exchanges, x.failure? = none) →
          ∃ candidate, e.IsCandidate now events owner candidate ∧ candidate.status = .active ∧
            Files s candidate owner now talk)) := by
  intro talk
  have handling : Handling c e events now s talk := leads_handleBatch e events now room n
  clear_value talk
  refine ⟨fun first => handling.ownerTold, handling.skipped_iff, handling.skipped_iff,
    handling.skipped_iff, handling.skipped_iff, fun reason => handling.leaves_store,
    fun unskipped => ?_⟩
  cases handling with
  | insignificant low skips => exact absurd skips.result_eq (unskipped _)
  | podless some' none' skips => exact absurd skips.result_eq (unskipped _)
  | ownerless found skips => exact absurd skips.result_eq (unskipped _)
  | unrecognized found none' skips => exact absurd skips.result_eq (unskipped _)
  | faulty found some' calls ill apart =>
      exact ⟨_, _, _, found, calls, fun _ => ⟨rfl, apart, rfl⟩, fun well => absurd ill well⟩
  | saved found some' calls well enough fresh stores =>
      refine ⟨_, _, _, found, calls, fun ill => absurd ill well, fun _ granted => ?_⟩
      exact ⟨_, ⟨some', _, _, _, enough, rfl⟩, rfl, stores.files granted⟩

theorem batch_outcomes_of_noisyBatch :
    let talk := converse (fun _ => Sample.willing "id")
      (Sample.engine.handleBatch noisyBatch .epoch).run 0 .empty
    Store.empty.size < UInt64.size ∧ talk.result.bind (·.toOption) = some (.created "id") ∧
      ∃ owner candidate, Sample.engine.IsCandidate .epoch noisyBatch owner candidate ∧
        candidate.status = .active ∧ Files .empty candidate owner .epoch talk := by
  intro talk
  have room : Store.empty.size < UInt64.size := by decide
  have created : talk.result.bind (·.toOption) = some (.created "id") := by decide +kernel
  have granted : ∀ x ∈ talk.exchanges, x.failure? = none := by decide +kernel
  obtain ⟨-, -, -, -, -, -, otherwise⟩ := batch_outcomes (fun _ => Sample.willing "id")
    Sample.engine noisyBatch .epoch 0 .empty room
  have unskipped : ∀ reason, talk.result ≠ some (.ok (.skipped reason)) := by
    intro reason skipped
    rw [skipped] at created
    cases created
  obtain ⟨first, owner, answer, -, -, breaks, files⟩ := otherwise unskipped
  have well : ¬ Incomparable owner answer := by
    intro ill
    have none' : talk.result = none := (breaks ill).1
    rw [none'] at created
    cases created
  obtain ⟨candidate, isCandidate, active, filed⟩ := files well granted
  exact ⟨room, created, owner, candidate, isCandidate, active, filed⟩

/-- Collaborators that tell of a deployment which wants the least number that a word can hold. -/
def unheardOf : Collaborators where
  answer := fun
    | .rollout _ _ _ => .ok ⟨-2147483648, 0, 1⟩
    | r => (Sample.deployed 0 "id").answer r

/-- A batch with an event that counts and is recognised is neither skipped nor written to the store,
though the owner is told and no call of the store fails. -/
theorem unheardOf_deployment_breaks_off :
    let talk := converse (fun _ => unheardOf)
      (Sample.engine.handleBatch [Sample.event "web-0" "OOMKilled"] .epoch).run 0 .empty
    (Sample.event "web-0" "OOMKilled").Counts ∧
      Sample.engine.classifier.classify (Sample.event "web-0" "OOMKilled") ≠ none ∧
      talk.result.isNone = true ∧ (∀ x ∈ talk.exchanges, x.failure? = none) ∧
      (clusterCalls talk.exchanges).length = 2 ∧ (storeWrites talk.exchanges).length = 0 ∧
      talk.store.incidents = [] := by
  decide +kernel

end IncidentWatch.Sequential

import IncidentWatch.Engine.Detection
import IncidentWatch.Proofs.Interleaving.Sample
import IncidentWatch.Proofs.Sequential.Conversation

/-!
# Noise in a batch

Events of low severity and events without a pod are noise: only the others count
(`Event.Counts`). A batch asks about the first event that counts, and takes its scope, its
release, its severity and its occurrences from those that do. The batch itself is looked at
again only when nothing counts, to say which pod was skipped.

So with one event that counts, a batch is the same program as what is left of it without the
noise (`handleBatch_counting`), and whoever it asks cannot tell the two apart.
-/

set_option autoImplicit false

namespace IncidentWatch

/-- An event is more than a notice, and it names its pod in full. -/
def Event.Counts (event : Event) : Prop :=
  event.severity ≠ .low ∧ event.podName ≠ "" ∧ event.podNamespace ≠ ""

instance (event : Event) : Decidable event.Counts :=
  inferInstanceAs (Decidable (_ ∧ _))

namespace Engine

variable {e : Engine} {events : List Event} {now : Instant}

theorem counting_eq_filter (events : List Event) :
    counting events = events.filter fun event => event.Counts := by
  unfold counting significant
  rw [List.filter_filter]
  refine List.filter_congr fun event _ =>
    Bool.eq_iff_iff.2 (Iff.trans ?_ decide_eq_true_iff.symm)
  simp only [Event.isSignificant, Event.hasPod, Event.Counts, Bool.and_eq_true,
    decide_eq_true_eq]
  exact and_comm

theorem counting_counting (events : List Event) : counting (counting events) = counting events := by
  simp only [counting_eq_filter, List.filter_filter, Bool.and_self]

theorem significant_of_counting_ne_nil (some' : counting events ≠ []) :
    (significant events).isEmpty = false := by
  rw [List.isEmpty_eq_false_iff]
  intro none'
  refine some' ?_
  rw [counting, none', List.filter_nil]

/-- Noise makes no difference to a batch in which something counts. -/
theorem handleBatch_counting (some' : counting events ≠ []) :
    e.handleBatch events now = e.handleBatch (counting events) now := by
  have again : counting (counting events) ≠ [] := (counting_counting events).symm ▸ some'
  unfold handleBatch
  simp only [significant_of_counting_ne_nil some', significant_of_counting_ne_nil again,
    counting_counting]
  cases counted : counting events with
  | nil => exact absurd counted some'
  | cons first rest => rfl

end Engine

namespace Sequential

open Interleaving

/-- With an event that counts, a batch and what is left of it without the noise lead to the same
conversation, whoever answers: the outcome is the same, and so are all that is asked, counted and
logged, and the store. This is so as well when others write to the store in between. -/
theorem noise_is_invisible (e : Engine) (events : List Event) (now : Instant)
    (some' : ∃ event ∈ events, event.Counts) :
    (∀ c n s, converse c (e.handleBatch events now).run n s =
      converse c (e.handleBatch (events.filter fun event => event.Counts) now).run n s) ∧
    ∀ xs ending, (e.handleBatch events now).run.Runs xs ending ↔
      (e.handleBatch (events.filter fun event => event.Counts) now).run.Runs xs ending := by
  have some'' : Engine.counting events ≠ [] := by
    obtain ⟨event, member, counts⟩ := some'
    rw [Engine.counting_eq_filter]
    exact List.ne_nil_of_mem (List.mem_filter.2 ⟨member, decide_eq_true counts⟩)
  have same : e.handleBatch events now = e.handleBatch (Engine.counting events) now :=
    Engine.handleBatch_counting some''
  rw [Engine.counting_eq_filter] at same
  rw [same]
  exact ⟨fun _ _ _ => rfl, fun _ _ => Iff.rfl⟩

/-- A batch with a notice, an event without a pod and one without a namespace around two that
count. -/
def noisyBatch : List Event :=
  [{ Sample.event "web-9" "BackOff" with severity := .low },
    Sample.event "" "BackOff", Sample.event "web-0" "OOMKilled",
    { Sample.event "web-8" "BackOff" with podNamespace := "" },
    Sample.event "web-1" "OOMKilled"]

theorem noise_is_invisible_in_noisyBatch :
    (∃ event ∈ noisyBatch, event.Counts) ∧
      (noisyBatch.filter fun event => event.Counts) =
        [Sample.event "web-0" "OOMKilled", Sample.event "web-1" "OOMKilled"] ∧
      converse (fun _ => Sample.willing "id") (Sample.engine.handleBatch noisyBatch .epoch).run 0
          .empty =
        converse (fun _ => Sample.willing "id") (Sample.engine.handleBatch
          [Sample.event "web-0" "OOMKilled", Sample.event "web-1" "OOMKilled"] .epoch).run 0
          .empty ∧
      (converse (fun _ => Sample.willing "id") (Sample.engine.handleBatch noisyBatch .epoch).run 0
        .empty).result.bind (·.toOption) = some (.created "id") := by
  have some' : ∃ event ∈ noisyBatch, event.Counts := by decide
  exact ⟨some', by decide, (noise_is_invisible Sample.engine noisyBatch .epoch some').1 _ 0 _,
    by decide +kernel⟩

end Sequential

end IncidentWatch

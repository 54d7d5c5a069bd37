import IncidentWatch.Proofs.Filing.Saves
import IncidentWatch.Proofs.Interleaving.Guarantees

/-!
# The severity of an incident

An incident is critical when a recognised event of the batch that created it is. What is
merged into it later leaves its severity as it is, and so does whatever else happens to it
(`severity_is_set_at_creation`). So it is not by all of its events that an incident is
rated, but by those that came first.
-/

set_option autoImplicit false

namespace IncidentWatch

theorem Candidate.severity_eq_critical_iff {classified : List ClassifiedEvent} :
    severity classified = .critical ↔ ∃ c ∈ classified, c.event.severity = .critical := by
  unfold severity
  split
  · rename_i grave
    obtain ⟨c, among, critical⟩ := List.any_eq_true.1 grave
    exact ⟨fun _ => ⟨c, among, of_decide_eq_true critical⟩, fun _ => rfl⟩
  · rename_i mild
    refine ⟨nofun, fun ⟨c, among, critical⟩ => ?_⟩
    exact absurd (List.any_eq_true.2 ⟨c, among, decide_eq_true critical⟩) mild

namespace Engine

/-- A recognised event among those that count is critical. -/
def Grave (e : Engine) (events : List Event) : Prop :=
  ∃ c ∈ e.classified (counting events), c.event.severity = .critical

/-- An incident is rated by the batch that created it, the last of its batches. -/
def Rates (e : Engine) (i : Incident) (saves : List Saved) : Prop :=
  ∃ merged creator, saves = merged ++ [creator] ∧
    (i.severity = .critical ↔ e.Grave creator.events)

theorem accounts_rates (e : Engine) : e.Accounts e.Rates := by
  refine ⟨?_, ?_, ?_⟩
  · intro b i files
    obtain ⟨-, id, ids, object, -, rfl⟩ := files.isCandidate
    exact ⟨[], b, rfl, Candidate.severity_eq_critical_iff⟩
  · intro b i j saves folds evolves rated
    obtain ⟨merged, creator, rfl, rating⟩ := rated
    refine ⟨b :: merged, creator, rfl, ?_⟩
    rw [evolves.severity]
    exact rating
  · intro now stage i j saves change rated
    obtain ⟨merged, creator, rfl, rating⟩ := rated
    refine ⟨merged, creator, rfl, ?_⟩
    rw [change.unmoved.2.2]
    exact rating

end Engine

namespace Interleaving

open IncidentWatch.Interleaving.System

/-- An incident is critical exactly when a recognised event of the batch that created it, the first
of those saved under its id, is critical; and its severity stays as it is. -/
theorem severity_is_set_at_creation (e : Engine) (schedule : List Turn) (i : Incident)
    (stored : i ∈ (after e schedule).store.incidents) :
    (∃ merged creator, savedUnder i.id (after e schedule).history = merged ++ [creator] ∧
      (i.severity = .critical ↔ e.Grave creator.events)) ∧
    ∀ later, ∃ j, (after e (schedule ++ later)).store.get? i.id = some j ∧
      j.severity = i.severity := by
  refine ⟨accounts_after e.accounts_rates schedule stored, fun later => ?_⟩
  obtain ⟨j, kept, evolves⟩ := (grows_after e schedule later).get? (Store.get?_of_mem stored)
  exact ⟨j, kept, evolves.severity⟩

/-- A pod is killed, at first as a grave event and then as a milder one. -/
def milderLater : List Turn :=
  Sample.running 0 (.batch [Sample.event "web-0" "OOMKilled"] .epoch) "a" 14
    ++ Sample.running 1 (.batch [{ Sample.event "web-0" "OOMKilled" with severity := .high }]
      (Sample.afterSeconds 60)) "b" 15

theorem severity_is_set_at_creation_of_critical :
    ∃ i ∈ (after Sample.engine milderLater).store.incidents, i.severity = .critical ∧
      ∃ merged creator,
        savedUnder i.id (after Sample.engine milderLater).history = merged ++ [creator] ∧
        Sample.engine.Grave creator.events := by
  have record : ((after Sample.engine milderLater).store.get? "a").map (·.severity) =
      some .critical := by decide +kernel
  obtain ⟨i, found, critical⟩ := Option.map_eq_some_iff.1 record
  have stored := (Store.get?_eq_some_iff.1 found).1
  obtain ⟨⟨merged, creator, saves, rating⟩, -⟩ :=
    severity_is_set_at_creation Sample.engine milderLater i stored
  exact ⟨i, stored, critical, merged, creator, saves, rating.1 critical⟩

/-- The milder event comes first. -/
def milderFirst : List Turn :=
  Sample.running 0 (.batch [{ Sample.event "web-0" "OOMKilled" with severity := .high }] .epoch)
      "a" 14
    ++ Sample.running 1 (.batch [Sample.event "web-0" "OOMKilled"] (Sample.afterSeconds 60)) "b" 15

/-- An incident is not critical although a batch with a critical event was saved into it. -/
theorem critical_event_comes_too_late :
    ∃ i ∈ (after Sample.engine milderFirst).store.incidents, i.severity ≠ .critical ∧
      ∃ b ∈ savedUnder i.id (after Sample.engine milderFirst).history,
        Sample.engine.Grave b.events := by
  have record : ((after Sample.engine milderFirst).store.get? "a").map (·.severity) =
      some .normal := by decide +kernel
  have batches : (savedUnder "a" (after Sample.engine milderFirst).history).map
      (fun b => (Sample.engine.classified (Engine.counting b.events)).map (·.event.severity)) =
      [[.critical], [.high]] := by decide +kernel
  obtain ⟨i, found, normal⟩ := Option.map_eq_some_iff.1 record
  obtain ⟨stored, id⟩ := Store.get?_eq_some_iff.1 found
  obtain ⟨b, rest, saves, grave, -⟩ := List.map_eq_cons_iff.1 batches
  obtain ⟨c, others, recognized, critical, -⟩ := List.map_eq_cons_iff.1 grave
  refine ⟨i, stored, by rw [normal]; exact nofun, b, ?_, c, ?_, critical⟩
  · rw [id, saves]
    exact List.mem_cons_self
  · rw [recognized]
    exact List.mem_cons_self

end Interleaving

end IncidentWatch

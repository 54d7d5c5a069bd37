import IncidentWatch.Proofs.Course.Standing
import IncidentWatch.Proofs.Interleaving.Conduct
import IncidentWatch.Proofs.Lock.Line

/-!
# Waiting for a lock

Whoever asks for a lock holds none, and nobody delivers an alert while holding one. So
those who wait for a lock wait for operations that wait for nobody: the holder of the lock
that somebody waits for can always take a step (`Steady.exists_able`).

An operation that can take a step stays so, whatever the others do, until it takes one
(`Able.other`), and a step of its own ends it, puts it in line, or answers it
(`move_cases`).
-/

set_option autoImplicit false

namespace IncidentWatch.Interleaving

open IncidentWatch.Interleaving.System

variable {D : Discipline} {e : Engine} {s s' : System} {t u : Nat} {task : Task}
  {release : ReleaseKey}

namespace System

/-- An operation asks for the lock of a release and was not given it yet. -/
def WaitsFor (s : System) (t : Nat) (release : ReleaseKey) : Prop :=
  s.asks? t = some (.lock release) ∧ ¬ s.locks.HoldsFor t release

/-- An operation has asked the notifier to deliver and was not answered yet. -/
def Delivers (s : System) (t : Nat) : Prop :=
  ∃ kind view, s.asks? t = some (.deliver kind view)

/-- An operation goes on at its next turn, whatever it is answered. -/
def CanStep (e : Engine) (s : System) (t : Nat) : Prop :=
  ∀ c, step e s (.proceed t c) ≠ s

end System

/-! ## Steps -/

/-- A move changes something. -/
theorem System.Move.ne (move : Move e s t s') : s' ≠ s := by
  have grows : ∀ {what : Happening}, ⟨t, what⟩ :: s.history ≠ s.history := by
    intro what same
    exact absurd (congrArg List.length same) (Nat.succ_ne_self _)
  intro same
  have history : s'.history = s.history := congrArg (·.history) same
  cases move with
  | begun op => exact grows history
  | queued here asks new =>
      have queued : some _ = some _ := (Function.update_self t _ s.tasks).symm.trans
        ((congrArg (·.tasks t) same).trans here)
      have waits := congrArg Task.waiting (Option.some.inj queued)
      rw [new] at waits
      cases waits
  | answered here asks granted served => exact grows history
  | ended here finished => exact grows history
  | stopped here => exact grows history

/-- A move of an operation under way ends it, puts it in line, or answers it. -/
theorem move_cases (move : Move e s t s') (here : s.tasks t = some task) (begun : t < s.begun) :
    (∃ what, s' = s.leave t what) ∨
    (∃ release next, task.rest = .ask (.lock release) next ∧ task.waiting = false ∧
      s' = s.queue t task release) ∨
    ∃ r next a store, task.rest = .ask r next ∧
      s' = s.resume t task.operation r a store (next a) := by
  cases move with
  | begun op => exact absurd begun (Nat.lt_irrefl _)
  | queued here' asks new =>
      cases here.symm.trans here'
      exact Or.inr (Or.inl ⟨_, _, asks, new, rfl⟩)
  | answered here' asks granted served =>
      cases here.symm.trans here'
      exact Or.inr (Or.inr ⟨_, _, _, _, asks, rfl⟩)
  | ended here' finished => exact Or.inl ⟨_, rfl⟩
  | stopped here' => exact Or.inl ⟨_, rfl⟩

/-- An operation is under way, and if it stands in line, then as the first. -/
structure Able (s : System) (t : Nat) (task : Task) : Prop where
  here : s.tasks t = some task
  first : task.waiting = true → ∃ release, s.locks.HoldsFor t release

namespace Able

/-- Whoever is able to take a step takes it when it is its turn. -/
theorem move (able : Able s t task) (c : Collaborators) :
    Move e s t (step e s (.proceed t c)) := by
  simp only [step, proceed, able.here]
  split
  · rename_i outcome finished
    exact .ended able.here finished
  · exact .stopped able.here
  · rename_i r next asks
    split
    · rename_i free
      refine move_goOn e c able.here asks ?_
      rintro release rfl
      cases free
    · rename_i release wanted
      cases wanted?_eq_some wanted
      split
      · rename_i waits
        obtain ⟨release', holds⟩ := able.first waits
        have granted := holds.holds
        rw [if_pos granted]
        exact move_goOn e c able.here asks fun _ _ => ⟨waits, granted⟩
      · rename_i new
        exact .queued able.here asks (by simpa using new)

theorem canStep (able : Able s t task) : s.CanStep e t :=
  fun c => (able.move c).ne

theorem other (able : Able s t task) (move : Move e s u s') (apart : t ≠ u) : Able s' t task where
  here := (move_tasks move apart).trans able.here
  first := fun waits => (able.first waits).imp (move_spares move apart).holds

end Able

/-! ## Who waits holds nothing -/

namespace Steady

section

variable (steady : Steady D s)
include steady

/-- Nobody holds two locks. -/
theorem release_unique {other : ReleaseKey} (holds : s.locks.HoldsFor t release)
    (holds' : s.locks.HoldsFor t other) : release = other := by
  obtain ⟨r, member, named, rfl, -⟩ := holds
  obtain ⟨r', member', named', rfl, -⟩ := holds'
  rw [steady.locks.request_of_name member member' (named.trans named'.symm)]

/-- Whoever stands in line is under way. -/
theorem exists_task (asks : s.locks.Asks t) : ∃ task, s.tasks t = some task := by
  cases here : s.tasks t with
  | some task => exact ⟨task, rfl⟩
  | none =>
      have inOrder := steady.inOrder t
      refine absurd asks (inOrder.free (fun task there => ?_) (inOrder.idle here))
      rw [here] at there
      cases there

/-- Whoever stands before another request than that for a lock does not wait. -/
theorem waiting_eq_false {r : Request} {next : r.Answer → Program Outcome}
    (here : s.tasks t = some task) (asks : task.rest = .ask r next)
    (free : ∀ release, r ≠ .lock release) : task.waiting = false := by
  refine Bool.eq_false_iff.2 fun waits => ?_
  obtain ⟨release, next', asks', -⟩ := (steady.inOrder t).waiting task here waits
  rw [asks] at asks'
  cases asks'
  exact free release rfl

/-- Whoever waits for a lock holds no lock. -/
theorem not_holdsFor_of_waitsFor (waits : s.WaitsFor t release) (other : ReleaseKey) :
    ¬ s.locks.HoldsFor t other := by
  obtain ⟨asking, lacks⟩ := waits
  obtain ⟨task, next, here, asks⟩ := asks?_eq_some asking
  intro holds
  cases waiting : task.waiting with
  | false => exact steady.not_asks here asks waiting holds.asks
  | true =>
      obtain ⟨release', next', asks', r, member, named, rfl⟩ :=
        (steady.inOrder t).waiting task here waiting
      rw [asks] at asks'
      cases asks'
      obtain ⟨r', member', named', rfl, first⟩ := holds
      rw [steady.locks.request_of_name member' member (named'.trans named.symm)] at first
      exact lacks ⟨r, member, named, rfl, first⟩

end

section

variable (steady : Steady (custody e) s)
include steady

/-- Whoever delivers an alert stands in no line. -/
theorem not_asks_of_delivers (delivers : s.Delivers t) : ¬ s.locks.Asks t := by
  obtain ⟨kind, view, asking⟩ := delivers
  obtain ⟨task, next, here, asks⟩ := asks?_eq_some asking
  have going := steady.waiting_eq_false here asks (fun _ same => nomatch same)
  refine (steady.inOrder t).free (fun task' here' => ?_) (steady.allowed here asks)
  rw [here] at here'
  cases here'
  exact going

/-- Whoever delivers an alert goes on as soon as that is answered. -/
theorem able_of_delivers (delivers : s.Delivers t) : ∃ task, Able s t task := by
  obtain ⟨kind, view, asking⟩ := delivers
  obtain ⟨task, next, here, asks⟩ := asks?_eq_some asking
  have going := steady.waiting_eq_false here asks (fun _ same => nomatch same)
  exact ⟨task, here, fun waits => nomatch going.symm.trans waits⟩

/-- The holder of a lock can take a step, and is not delivering an alert. -/
theorem able_of_holdsFor (holds : s.locks.HoldsFor t release) :
    (∃ task, Able s t task) ∧ ¬ s.Delivers t := by
  obtain ⟨task, here⟩ := steady.exists_task holds.asks
  exact ⟨⟨task, here, fun _ => ⟨release, holds⟩⟩,
    fun delivers => steady.not_asks_of_delivers delivers holds.asks⟩

/-- Beside an operation that delivers no alert there is one that can take a step and delivers none:
itself, or the one that holds the lock that it waits for. -/
theorem exists_able (here : s.tasks t = some task) (calm : ¬ s.Delivers t) :
    ∃ u, (∃ task', Able s u task') ∧ ¬ s.Delivers u := by
  cases waiting : task.waiting with
  | false =>
      exact ⟨t, ⟨task, here, fun waits => nomatch waiting.symm.trans waits⟩, calm⟩
  | true =>
      obtain ⟨release, next, asks, r, member, named, rfl⟩ :=
        (steady.inOrder t).waiting task here waiting
      cases before : s.locks.ahead t r.release with
      | nil =>
          exact ⟨t, steady.able_of_holdsFor
            (steady.locks.holdsFor_of_ahead_eq_nil member named before)⟩
      | cons first others =>
          exact ⟨first.name, steady.able_of_holdsFor
            (steady.locks.holdsFor_of_ahead_eq_cons member named before)⟩

end

end Steady

end IncidentWatch.Interleaving

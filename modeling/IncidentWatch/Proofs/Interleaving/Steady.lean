import IncidentWatch.Proofs.Interleaving.Discipline
import IncidentWatch.Proofs.Lock.Exclusion

/-!
# Systems of obedient operations

When every operation obeys a discipline, so does every system of them, after every
schedule (`steady_after`). What is kept from turn to turn is `Steady`: the locks are
sound, an operation that holds a lock by the history holds it by the locks, and what is
left of each operation ensures what it ends with, from the situation at hand.

One move concerns one operation. For the others the situation changes within their rely
(`Steady.rely_move`), so what they ensured before they ensure still; the one that moves
goes on with what its program ensures after the answer.
-/

set_option autoImplicit false

namespace IncidentWatch.Interleaving

open IncidentWatch.Interleaving.System

variable {D : Discipline} {e : Engine} {s s' : System} {t u : Nat} {task : Task}
  {release : ReleaseKey}

/-! ## What a move leaves alone -/

@[simp] theorem held_of_other {what : Happening} {earlier : List Entry} (apart : u ≠ t) :
    held u (⟨t, what⟩ :: earlier) = held u earlier := by
  simp [held, apart.symm]

@[simp] theorem seen_of_other {what : Happening} {earlier : List Entry} (apart : u ≠ t) :
    seen u (⟨t, what⟩ :: earlier) = seen u earlier := by
  simp [seen, apart.symm]

@[simp] theorem held_answered {r : Request} {a : r.Answer} {earlier : List Entry} :
    held t (⟨t, .answered r a⟩ :: earlier) = heldAfter (held t earlier) r := by
  simp [held]

@[simp] theorem seen_answered {r : Request} {a : r.Answer} {earlier : List Entry} :
    seen t (⟨t, .answered r a⟩ :: earlier) = seenAfter (seen t earlier) r a := by
  simp [seen]

theorem move_tasks (move : Move e s t s') (apart : u ≠ t) : s'.tasks u = s.tasks u := by
  cases move with
  | begun op => exact Function.update_of_ne apart _ _
  | queued here asks new => exact Function.update_of_ne apart _ _
  | answered here asks granted served => exact Function.update_of_ne apart _ _
  | ended here finished => exact Function.update_of_ne apart _ _
  | stopped here => exact Function.update_of_ne apart _ _

theorem move_held (move : Move e s t s') (apart : u ≠ t) :
    held u s'.history = held u s.history := by
  cases move with
  | begun op => exact held_of_other apart
  | queued here asks new => rfl
  | answered here asks granted served => exact held_of_other apart
  | ended here finished => exact held_of_other apart
  | stopped here => exact held_of_other apart

theorem spares_locksAfter (locks : ReleaseLocks Nat) (apart : u ≠ t) (r : Request) :
    ReleaseLocks.Spares u locks (locksAfter locks t r) := by
  cases r with
  | unlock release => exact ReleaseLocks.spares_release locks apart
  | pruneLocks => exact ReleaseLocks.spares_prune u locks
  | _ => exact ReleaseLocks.spares_refl u locks

theorem sound_locksAfter {locks : ReleaseLocks Nat} {t : Nat} (sound : locks.Sound) (r : Request) :
    (locksAfter locks t r).Sound := by
  cases r with
  | unlock release => exact sound.release t
  | pruneLocks => exact sound.prune
  | _ => exact sound

theorem move_spares (move : Move e s t s') (apart : u ≠ t) :
    ReleaseLocks.Spares u s.locks s'.locks := by
  cases move with
  | begun op => exact ReleaseLocks.spares_refl u s.locks
  | queued here asks new => exact ReleaseLocks.spares_request s.locks apart _
  | answered here asks granted served => exact spares_locksAfter s.locks apart _
  | ended here finished => exact ReleaseLocks.spares_release s.locks apart
  | stopped here => exact ReleaseLocks.spares_release s.locks apart

/-! ## Steady systems -/

/-- How the operation of a number stands, with its place in line and the locks that it holds. -/
structure InOrder (D : Discipline) (s : System) (t : Nat) : Prop where
  idle : s.tasks t = none → held t s.history = none
  conduct : ∀ task, s.tasks t = some task →
    D.Ensures t task.rest (D.final task.operation) s.toSituation
  /-- Whoever waits for a lock stands before the request for it, and in line. -/
  waiting : ∀ task, s.tasks t = some task → task.waiting = true → ∃ release next,
    task.rest = .ask (.lock release) next ∧
      ∃ r ∈ s.locks.requests, r.name = t ∧ r.release = release
  /-- Whoever neither holds a lock nor waits for one is in no line. -/
  free : (∀ task, s.tasks t = some task → task.waiting = false) →
    held t s.history = none → ¬ s.locks.Asks t
  holding : ∀ release, held t s.history = some release → s.locks.HoldsFor t release

/-- What holds of a system after every turn. -/
structure Steady (D : Discipline) (s : System) : Prop where
  inv : D.inv s.toSituation
  locks : s.locks.Sound
  unbegun : ∀ t, s.begun ≤ t → s.tasks t = none
  inOrder : ∀ t, InOrder D s t

theorem steady_start (D : Discipline) : Steady D {} where
  inv := D.start
  locks := ReleaseLocks.sound_empty
  unbegun := fun _ _ => rfl
  inOrder := fun _ =>
    { idle := fun _ => rfl
      conduct := fun _ here => nomatch here
      waiting := fun _ here => nomatch here
      free := fun _ _ ⟨_, member, _⟩ => nomatch member
      holding := fun _ here => nomatch here }

namespace Steady

variable (steady : Steady D s)
include steady

/-- Whatever an operation stands before, it is allowed. -/
theorem allowed {r : Request} {next : r.Answer → Program Outcome} (here : s.tasks t = some task)
    (asks : task.rest = .ask r next) : D.allowed t s.toSituation r := by
  have conduct := (steady.inOrder t).conduct task here
  rw [asks] at conduct
  exact (conduct steady.inv _ (D.rely_refl t _) steady.inv).1

theorem ensures_next {r : Request} {next : r.Answer → Program Outcome} {c : Collaborators}
    {a : r.Answer} {store : Store} (here : s.tasks t = some task)
    (asks : task.rest = .ask r next) (served : serve c s.store r = some (a, store)) :
    D.Ensures t (next a) (D.final task.operation) (s.answered t r a store) := by
  have conduct := (steady.inOrder t).conduct task here
  rw [asks] at conduct
  exact (conduct steady.inv _ (D.rely_refl t _) steady.inv).2 c a store served

theorem lt_begun (here : s.tasks t = some task) : t < s.begun := by
  refine Nat.lt_of_not_le fun late => ?_
  rw [steady.unbegun t late] at here
  cases here

/-- No other holds the lock that an operation holds. -/
theorem held_ne (apart : u ≠ t) (here : held t s.history = some release) :
    held u s.history ≠ some release := by
  intro there
  exact apart (steady.locks.holder_unique ((steady.inOrder u).holding release there)
    ((steady.inOrder t).holding release here))

/-- For the others, a move is within their rely. -/
theorem rely_move (move : Move e s t s') (apart : u ≠ t) :
    D.rely u s.toSituation s'.toSituation := by
  cases move with
  | begun op => exact D.rely_note apart
  | queued here asks new => exact D.rely_refl u _
  | answered here asks granted served =>
      exact D.rely_answered apart steady.inv (steady.allowed here asks)
        (fun release => steady.held_ne apart) served
  | ended here finished => exact D.rely_note apart
  | stopped here => exact D.rely_note apart

theorem inv_move (move : Move e s t s') : D.inv s'.toSituation := by
  cases move with
  | begun op => exact D.inv_note steady.inv fun _ _ same => nomatch same
  | queued here asks new => exact steady.inv
  | answered here asks granted served =>
      exact D.inv_answered steady.inv (steady.allowed here asks) served
  | ended here finished =>
      refine D.inv_note steady.inv fun op outcome same => ?_
      cases same
      have conduct := (steady.inOrder t).conduct _ here
      rw [finished] at conduct
      exact conduct steady.inv
  | stopped here => exact D.inv_note steady.inv fun _ _ same => nomatch same

theorem unbegun_move (move : Move e s t s') : ∀ u, s'.begun ≤ u → s'.tasks u = none := by
  have others : ∀ {u task}, s.tasks t = some task → s.begun ≤ u → u ≠ t := by
    rintro u task here late rfl
    exact absurd (steady.lt_begun here) (Nat.not_lt_of_le late)
  intro u late
  cases move with
  | begun op =>
      have apart : u ≠ s.begun := Nat.ne_of_gt late
      exact (Function.update_of_ne apart _ _).trans (steady.unbegun u (Nat.le_of_lt late))
  | queued here asks new =>
      exact (Function.update_of_ne (others here late) _ _).trans (steady.unbegun u late)
  | answered here asks granted served =>
      exact (Function.update_of_ne (others here late) _ _).trans (steady.unbegun u late)
  | ended here finished =>
      exact (Function.update_of_ne (others here late) _ _).trans (steady.unbegun u late)
  | stopped here =>
      exact (Function.update_of_ne (others here late) _ _).trans (steady.unbegun u late)

/-- Whoever asks for a lock is in no line before. -/
theorem not_asks (here : s.tasks t = some task) {next : Unit → Program Outcome}
    (asks : task.rest = .ask (.lock release) next) (new : task.waiting = false) :
    ¬ s.locks.Asks t := by
  refine (steady.inOrder t).free (fun other there => ?_) (D.lock_alone (steady.allowed here asks))
  rw [here] at there
  cases there
  exact new

theorem locks_move (move : Move e s t s') : s'.locks.Sound := by
  cases move with
  | begun op => exact steady.locks
  | queued here asks new => exact steady.locks.request (steady.not_asks here asks new) _
  | answered here asks granted served => exact sound_locksAfter steady.locks _
  | ended here finished => exact steady.locks.release t
  | stopped here => exact steady.locks.release t

/-! ## Those that do not move -/

theorem inOrder_other (move : Move e s t s') (apart : u ≠ t) : InOrder D s' u := by
  have before := steady.inOrder u
  have tasks := move_tasks move apart
  have holds := move_held move apart
  have spares := move_spares move apart
  have meanwhile := steady.rely_move move apart
  refine ⟨?_, ?_, ?_, ?_, ?_⟩
  · rw [tasks, holds]
    exact before.idle
  · rw [tasks]
    exact fun task here => (before.conduct task here).of_rely steady.inv meanwhile
      fun _ => D.final_of_rely meanwhile
  · rw [tasks]
    intro task here waits
    obtain ⟨release, next, asks, r, member, named, asked⟩ := before.waiting task here waits
    exact ⟨release, next, asks, r, (spares.requests r named).2 member, named, asked⟩
  · rw [tasks, holds, spares.asks]
    exact before.free
  · rw [holds]
    exact fun release here => spares.holds release (before.holding release here)

/-! ## The one that moves -/

omit steady in
theorem inOrder_leave {what : Happening} (leaves : ∀ r a, what ≠ .answered r a) :
    InOrder D (s.leave t what) t := by
  have gone : (s.leave t what).tasks t = none := by simp [leave]
  have lets : held t (s.leave t what).history = none := by
    cases what with
    | answered r a => exact absurd rfl (leaves r a)
    | _ => simp [leave, Situation.note, held]
  refine ⟨fun _ => lets, ?_, ?_, fun _ _ => ReleaseLocks.not_asks_release s.locks t, ?_⟩
  · intro task here
    rw [gone] at here
    cases here
  · intro task here
    rw [gone] at here
    cases here
  · intro release here
    rw [lets] at here
    cases here

theorem inOrder_begin (op : Operation)
    (obeys : D.Ensures s.begun (op.program e) (D.final op) (s.note s.begun (.begun op))) :
    InOrder D (s.begin e op) s.begun := by
  have begun : (s.begin e op).tasks s.begun = some ⟨op, op.program e, false⟩ :=
    Function.update_self s.begun _ s.tasks
  have nobody := steady.unbegun s.begun (Nat.le_refl _)
  have lets : held s.begun (s.begin e op).history = none := by
    simp [begin, Situation.note, held]
  refine ⟨fun _ => lets, ?_, ?_, fun _ _ => ?_, ?_⟩
  · intro task here
    rw [begun] at here
    cases here
    exact obeys
  · intro task here waits
    rw [begun] at here
    cases here
    cases waits
  · have before := steady.inOrder s.begun
    exact before.free (fun task here => by rw [nobody] at here; cases here) (before.idle nobody)
  · intro release here
    rw [lets] at here
    cases here

theorem inOrder_queue (here : s.tasks t = some task) {next : Unit → Program Outcome}
    (asks : task.rest = .ask (.lock release) next) : InOrder D (s.queue t task release) t := by
  have queued : (s.queue t task release).tasks t = some { task with waiting := true } :=
    Function.update_self t _ s.tasks
  have alone : held t s.history = none := D.lock_alone (steady.allowed here asks)
  refine ⟨fun _ => alone, ?_, ?_, ?_, ?_⟩
  · intro task' here'
    rw [queued] at here'
    cases here'
    exact (steady.inOrder t).conduct task here
  · intro task' here' _
    rw [queued] at here'
    cases here'
    refine ⟨release, next, asks, ⟨t, release, (s.locks.enter release).1⟩, ?_, rfl, rfl⟩
    show _ ∈ (s.locks.request t release).requests
    rw [ReleaseLocks.requests_request]
    exact List.mem_append_right _ List.mem_cons_self
  · intro still
    cases still _ queued
  · intro release' here'
    rw [show held t (s.queue t task release).history = none from alone] at here'
    cases here'

theorem inOrder_resume {r : Request} {next : r.Answer → Program Outcome} {c : Collaborators}
    {a : r.Answer} {store : Store} (here : s.tasks t = some task)
    (asks : task.rest = .ask r next)
    (granted : ∀ release, r = .lock release → task.waiting = true ∧ s.locks.holds t = true)
    (served : serve c s.store r = some (a, store)) :
    InOrder D (s.resume t task.operation r a store (next a)) t := by
  have resumed : (s.resume t task.operation r a store (next a)).tasks t =
      some ⟨task.operation, next a, false⟩ := Function.update_self t _ s.tasks
  have before := steady.inOrder t
  have holds : held t (s.resume t task.operation r a store (next a)).history =
      heldAfter (held t s.history) r := held_answered
  -- Only whoever asks for a lock can be waiting.
  have going : (∀ release, r ≠ .lock release) →
      ∀ task', s.tasks t = some task' → task'.waiting = false := by
    intro free task' here'
    rw [here] at here'
    cases here'
    refine Bool.eq_false_iff.2 fun waits => ?_
    obtain ⟨release, next', asks', -⟩ := before.waiting task here waits
    rw [asks] at asks'
    cases asks'
    exact free release rfl
  refine ⟨?_, ?_, ?_, ?_, ?_⟩
  · intro gone
    rw [resumed] at gone
    cases gone
  · have goesOn := steady.ensures_next here asks served
    intro task' here'
    rw [resumed] at here'
    cases here'
    exact goesOn
  · intro task' here' waits
    rw [resumed] at here'
    cases here'
    cases waits
  · intro _
    rw [holds]
    cases r with
    | lock release => exact fun lets => nomatch lets
    | unlock release => exact fun _ => ReleaseLocks.not_asks_release s.locks t
    | _ => exact before.free (going (fun _ same => nomatch same))
  · intro release
    rw [holds]
    cases r with
    | lock asked =>
        intro same
        cases same
        obtain ⟨waits, first⟩ := granted release rfl
        obtain ⟨release', next', asks', r, member, named, released⟩ :=
          before.waiting task here waits
        rw [asks] at asks'
        cases asks'
        exact released ▸ steady.locks.holdsFor_of_holds first member named
    | unlock asked => exact fun same => nomatch same
    | pruneLocks => exact fun same => (before.holding release same).prune
    | _ => exact before.holding release

/-- A move keeps a system steady, if what begins obeys the discipline. -/
theorem move
    (obeys : ∀ t op s, held t s.history = none → D.Ensures t (op.program e) (D.final op) s)
    (move : Move e s t s') : Steady D s' := by
  refine ⟨steady.inv_move move, steady.locks_move move, steady.unbegun_move move, fun u => ?_⟩
  by_cases apart : u ≠ t
  · exact steady.inOrder_other move apart
  · cases not_not.1 apart
    cases move with
    | begun op =>
        refine steady.inOrder_begin op (obeys s.begun op _ ?_)
        simp [Situation.note, held]
    | queued here asks new => exact steady.inOrder_queue here asks
    | answered here asks granted served => exact steady.inOrder_resume here asks granted served
    | ended here finished => exact inOrder_leave fun _ _ same => nomatch same
    | stopped here => exact inOrder_leave fun _ _ same => nomatch same

end Steady

/-- Operations that obey a discipline keep to it side by side, after every schedule. -/
theorem steady_after
    (obeys : ∀ t op s, held t s.history = none → D.Ensures t (op.program e) (D.final op) s)
    (schedule : List Turn) : Steady D (after e schedule) := by
  refine after_invariant (steady_start D) (fun s turn steady => ?_) schedule
  rcases step_cases e s turn with same | ⟨t, move⟩
  · rw [same]
    exact steady
  · exact steady.move obeys move

end IncidentWatch.Interleaving

import IncidentWatch.Engine.Sweep
import IncidentWatch.Lock
import Mathlib.Data.List.Induction
import Mathlib.Logic.Function.Basic

/-!
# Operations side by side

Batches and sweeps of one engine run side by side over one store and one set of
locks. A turn begins an operation, lets one of those under way go on by a single
request, or cuts one off; a schedule is any list of turns. An operation that asks
for the lock of a release first takes its place in line and goes on once it holds
the lock; however it ends, it gives back what it holds.

The collaborators answer as they like, and the store may refuse any request; what
the store does not refuse it serves by itself. Everything that happens is kept in
the history, latest first, from which it can be read which lock an operation holds
(`held`) and what it last knew of an incident under that lock (`lastKnown`).
-/

set_option autoImplicit false

namespace IncidentWatch.Interleaving

/-! ## Operations -/

/-- What is asked of an engine. -/
inductive Operation where
  | batch (events : List Event) (now : Instant)
  | sweep (now : Instant)

/-- What an operation ends with. -/
inductive Outcome where
  | batch (result : Except EngineError BatchOutcome)
  | sweep (result : Except EngineError SweepReport)

def Operation.program (e : Engine) : Operation → Program Outcome
  | .batch events now => do return .batch (← (e.handleBatch events now).run)
  | .sweep now => do return .sweep (← (e.sweep now).run)

/-! ## Answers -/

/-- How one request is met: what the collaborators other than the store answer, and the error that
the store refuses it with, if it does. -/
structure Collaborators where
  answer : (r : Request) → r.Answer
  refusal : Option StoreError := none

/-- The answer to a request and the store after it; nothing if the store meets a fault. A request
that the store refuses changes nothing. -/
def serve (c : Collaborators) (s : Store) : (r : Request) → Option (r.Answer × Store)
  | .create i =>
    match c.refusal with
    | some error => some (.error error, s)
    | none =>
      match s.create i with
      | .ok s' => some (.ok (), s')
      | .error error => some (.error error, s)
  | .update i =>
    match c.refusal with
    | some error => some (.error error, s)
    | none =>
      match s.update i with
      | .ok s' => some (.ok (), s')
      | .error error => some (.error error, s)
  | .read id =>
    match c.refusal with
    | some error => some (.error error, s)
    | none => some (s.read id, s)
  | .list f p =>
    match c.refusal with
    | some error => some (.error error, s)
    | none =>
      match s.list f p with
      | .ok page => some (.ok page, s)
      | .error _ => none
  | r => some (c.answer r, s)

/-! ## History -/

/-- What happens to an operation. -/
inductive Happening where
  | begun (op : Operation)
  | answered (r : Request) (a : r.Answer)
  | ended (op : Operation) (outcome : Outcome)
  | stopped

/-- What happened to the operation of a number. -/
structure Entry where
  task : Nat
  what : Happening

/-- The release whose lock is held after a request was answered. -/
def heldAfter (before : Option ReleaseKey) : Request → Option ReleaseKey
  | .lock release => some release
  | .unlock _ => none
  | _ => before

/-- The release whose lock an operation holds. -/
def held (t : Nat) : List Entry → Option ReleaseKey
  | [] => none
  | entry :: earlier =>
    if entry.task = t then
      match entry.what with
      | .answered r _ => heldAfter (held t earlier) r
      | _ => none
    else held t earlier

/-- The incidents that an answer shows, or that a granted request has written. -/
def shown : (r : Request) → r.Answer → List Incident
  | .create i, .ok () => [i]
  | .update i, .ok () => [i]
  | .read _, .ok i => [i]
  | .list _ _, .ok page => page.items
  | _, _ => []

/-- What was read or written since the lock was taken, after a request was answered. -/
def seenAfter (before : List Incident) : (r : Request) → r.Answer → List Incident
  | .lock _, _ => []
  | .unlock _, _ => []
  | r, a => shown r a ++ before

/-- The incidents that an operation has read or written since it took the lock that it holds, latest
first. -/
def seen (t : Nat) : List Entry → List Incident
  | [] => []
  | entry :: earlier =>
    if entry.task = t then
      match entry.what with
      | .answered r a => seenAfter (seen t earlier) r a
      | _ => []
    else seen t earlier

/-- The record of an incident that an operation last read or wrote under the lock that it holds. -/
def lastKnown (t : Nat) (id : String) (history : List Entry) : Option Incident :=
  (seen t history).find? (·.id = id)

/-! ## States and turns -/

/-- The store, and what has happened so far, latest first. -/
structure Situation where
  store : Store := .empty
  history : List Entry := []

namespace Situation

/-- Notes what happened to an operation. -/
def note (s : Situation) (t : Nat) (what : Happening) : Situation :=
  { s with history := ⟨t, what⟩ :: s.history }

/-- An operation was answered, and the store is the given one. -/
def answered (s : Situation) (t : Nat) (r : Request) (a : r.Answer) (store : Store) : Situation :=
  ⟨store, ⟨t, .answered r a⟩ :: s.history⟩

end Situation

/-- An operation under way: what is left of it, and whether it waits in line for a lock. -/
structure Task where
  operation : Operation
  rest : Program Outcome
  waiting : Bool := false

/-- Operations of an engine, side by side. -/
structure System extends Situation where
  locks : ReleaseLocks Nat := {}
  tasks : Nat → Option Task := fun _ => none
  /-- How many operations were begun; the next one gets this number. -/
  begun : Nat := 0

/-- The release whose lock a request is for. -/
def wanted? : Request → Option ReleaseKey
  | .lock release => some release
  | _ => none

/-- The locks after a request of an operation was answered. -/
def locksAfter (locks : ReleaseLocks Nat) (t : Nat) : Request → ReleaseLocks Nat
  | .unlock _ => locks.release t
  | .pruneLocks => locks.prune
  | _ => locks

/-- The record that an operation is about to write over the stored one. -/
def System.updating? (s : System) (t : Nat) : Option Incident :=
  match s.tasks t with
  | some ⟨_, .ask (.update i) _, _⟩ => some i
  | _ => none

/-- The batches that ended well, with what became of them. -/
def finishedBatches (history : List Entry) : List (List Event × BatchOutcome) :=
  history.filterMap fun entry =>
    match entry.what with
    | .ended (.batch events _) (.batch (.ok outcome)) => some (events, outcome)
    | _ => none

/-- What can happen next. -/
inductive Turn where
  | begin (op : Operation)
  | proceed (t : Nat) (c : Collaborators)
  | stop (t : Nat)

namespace System

/-- Begins an operation. -/
def begin (s : System) (e : Engine) (op : Operation) : System :=
  { s with
    toSituation := s.note s.begun (.begun op)
    tasks := Function.update s.tasks s.begun (some ⟨op, op.program e, false⟩)
    begun := s.begun + 1 }

/-- An operation is over and gives back its locks. -/
def leave (s : System) (t : Nat) (what : Happening) : System :=
  { s with
    toSituation := s.note t what
    tasks := Function.update s.tasks t none
    locks := s.locks.release t }

/-- An operation takes its place in line for the lock of a release. -/
def queue (s : System) (t : Nat) (task : Task) (release : ReleaseKey) : System :=
  { s with
    tasks := Function.update s.tasks t (some { task with waiting := true })
    locks := s.locks.request t release }

/-- An operation was answered and goes on with the rest of it. -/
def resume (s : System) (t : Nat) (op : Operation) (r : Request) (a : r.Answer) (store : Store)
    (rest : Program Outcome) : System :=
  { s with
    toSituation := s.answered t r a store
    tasks := Function.update s.tasks t (some ⟨op, rest, false⟩)
    locks := locksAfter s.locks t r }

/-- An operation is answered and goes on, or meets a fault of the store. -/
def goOn (s : System) (t : Nat) (op : Operation) (r : Request) (next : r.Answer → Program Outcome)
    (c : Collaborators) : System :=
  match serve c s.store r with
  | none => s.leave t .stopped
  | some (a, store) => s.resume t op r a store (next a)

/-- Lets an operation go on by one request, if it can. -/
def proceed (s : System) (t : Nat) (c : Collaborators) : System :=
  match s.tasks t with
  | none => s
  | some task =>
    match task.rest with
    | .done outcome => s.leave t (.ended task.operation outcome)
    | .halt _ => s.leave t .stopped
    | .ask r next =>
      match wanted? r with
      | none => s.goOn t task.operation r next c
      | some release =>
        if task.waiting then
          if s.locks.holds t then s.goOn t task.operation r next c else s
        else s.queue t task release

/-- Cuts off an operation that is under way. -/
def stop (s : System) (t : Nat) : System :=
  match s.tasks t with
  | none => s
  | some _ => s.leave t .stopped

/-- One turn. -/
def step (e : Engine) (s : System) : Turn → System
  | .begin op => s.begin e op
  | .proceed t c => s.proceed t c
  | .stop t => s.stop t

/-- The state after a schedule, from an empty store on. -/
def after (e : Engine) (schedule : List Turn) : System :=
  schedule.foldl (step e) {}

theorem after_append (e : Engine) (schedule later : List Turn) :
    after e (schedule ++ later) = later.foldl (step e) (after e schedule) :=
  List.foldl_append

/-- What a turn can do to the operation of a number. -/
inductive Move (e : Engine) (s : System) : Nat → System → Prop
  | begun (op : Operation) : Move e s s.begun (s.begin e op)
  | queued {t : Nat} {task : Task} {release : ReleaseKey} {next : Unit → Program Outcome}
      (here : s.tasks t = some task) (asks : task.rest = .ask (.lock release) next)
      (new : task.waiting = false) : Move e s t (s.queue t task release)
  | answered {t : Nat} {task : Task} {r : Request} {next : r.Answer → Program Outcome}
      {c : Collaborators} {a : r.Answer} {store : Store}
      (here : s.tasks t = some task) (asks : task.rest = .ask r next)
      (granted : ∀ release, r = .lock release → task.waiting = true ∧ s.locks.holds t = true)
      (served : serve c s.store r = some (a, store)) :
      Move e s t (s.resume t task.operation r a store (next a))
  | ended {t : Nat} {task : Task} {outcome : Outcome}
      (here : s.tasks t = some task) (finished : task.rest = .done outcome) :
      Move e s t (s.leave t (.ended task.operation outcome))
  | stopped {t : Nat} {task : Task} (here : s.tasks t = some task) :
      Move e s t (s.leave t .stopped)

theorem wanted?_eq_some {r : Request} {release : ReleaseKey} (wanted : wanted? r = some release) :
    r = .lock release := by
  unfold wanted? at wanted
  split at wanted
  · cases wanted
    rfl
  · cases wanted

theorem move_goOn (e : Engine) {s : System} {t : Nat} {task : Task} {r : Request}
    {next : r.Answer → Program Outcome} (c : Collaborators) (here : s.tasks t = some task)
    (asks : task.rest = .ask r next)
    (granted : ∀ release, r = .lock release → task.waiting = true ∧ s.locks.holds t = true) :
    Move e s t (s.goOn t task.operation r next c) := by
  unfold goOn
  split
  · exact .stopped here
  · rename_i a store served
    exact .answered here asks granted served

/-- A turn does nothing or makes a move. -/
theorem step_cases (e : Engine) (s : System) (turn : Turn) :
    step e s turn = s ∨ ∃ t, Move e s t (step e s turn) := by
  cases turn with
  | begin op => exact Or.inr ⟨s.begun, .begun op⟩
  | stop t =>
      cases here : s.tasks t with
      | none => exact Or.inl (by simp only [step, stop, here])
      | some task =>
          refine Or.inr ⟨t, ?_⟩
          simp only [step, stop, here]
          exact .stopped here
  | proceed t c =>
      simp only [step, proceed]
      split
      · exact Or.inl rfl
      · rename_i task here
        split
        · rename_i outcome finished
          exact Or.inr ⟨t, .ended here finished⟩
        · exact Or.inr ⟨t, .stopped here⟩
        · rename_i r next asks
          split
          · rename_i free
            refine Or.inr ⟨t, move_goOn e c here asks ?_⟩
            rintro release rfl
            cases free
          · rename_i release wanted
            cases wanted?_eq_some wanted
            split
            · rename_i waiting
              split
              · rename_i granted
                exact Or.inr ⟨t, move_goOn e c here asks fun _ _ => ⟨waiting, granted⟩⟩
              · exact Or.inl rfl
            · rename_i new
              exact Or.inr ⟨t, .queued here asks (by simpa using new)⟩

/-- What holds at the start and is kept by every turn holds after every schedule. -/
theorem after_invariant {e : Engine} {P : System → Prop} (start : P {})
    (kept : ∀ s turn, P s → P (step e s turn)) (schedule : List Turn) : P (after e schedule) := by
  induction schedule using List.reverseRecOn with
  | nil => exact start
  | append_singleton earlier turn inductionHypothesis =>
      rw [after_append]
      exact kept _ turn inductionHypothesis

/-- What holds at first and is kept by every move after a schedule holds after every schedule. -/
theorem after_moves {e : Engine} {P : System → Prop} (start : P {})
    (kept : ∀ earlier {t s'}, P (after e earlier) → Move e (after e earlier) t s' → P s')
    (schedule : List Turn) : P (after e schedule) := by
  induction schedule using List.reverseRecOn with
  | nil => exact start
  | append_singleton earlier turn inductionHypothesis =>
      rw [after_append]
      show P (step e (after e earlier) turn)
      rcases step_cases e (after e earlier) turn with same | ⟨t, move⟩
      · rw [same]
        exact inductionHypothesis
      · exact kept earlier inductionHypothesis move

/-- A move adds one entry to the history, or none. -/
theorem move_history {e : Engine} {s s' : System} {t : Nat} (move : Move e s t s') :
    s'.history = s.history ∨ ∃ what, s'.history = ⟨t, what⟩ :: s.history := by
  cases move with
  | queued here asks new => exact Or.inl rfl
  | _ => exact Or.inr ⟨_, rfl⟩

/-- A turn adds one entry to the history, or none. -/
theorem step_history (e : Engine) (s : System) (turn : Turn) :
    (step e s turn).history = s.history ∨
      ∃ entry, (step e s turn).history = entry :: s.history := by
  rcases step_cases e s turn with same | ⟨t, move⟩
  · exact Or.inl (by rw [same])
  · exact (move_history move).imp_right fun ⟨what, grown⟩ => ⟨⟨t, what⟩, grown⟩

end System

/-- Along a schedule, a history only grows. -/
theorem history_suffix (e : Engine) (schedule later : List Turn) :
    (System.after e schedule).history <:+ (System.after e (schedule ++ later)).history := by
  induction later using List.reverseRecOn with
  | nil => simp
  | append_singleton earlier turn inductionHypothesis =>
      rw [← List.append_assoc, System.after_append e (schedule ++ earlier)]
      refine inductionHypothesis.trans ?_
      rcases System.step_history e (System.after e (schedule ++ earlier)) turn with
        same | ⟨entry, grown⟩
      · exact same ▸ List.suffix_rfl
      · exact grown ▸ List.suffix_cons _ _

end IncidentWatch.Interleaving

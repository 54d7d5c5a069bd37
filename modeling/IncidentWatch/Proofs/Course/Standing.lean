import IncidentWatch.Proofs.Course.Batch
import IncidentWatch.Proofs.Course.Sweep

/-!
# Where operations stand

The stage of an operation is read off the history (`stageOf`), and whatever the schedule,
what is left of an operation follows its rule from that stage on (`onCourse_after`).

A stage is about some incidents: those that it has in hand, and the one that an
announcement is due for or was delivered for. An answer adds only those that it shows
(`Stage.mem_incidents_next`, `Stage.mem_inHand_next`).
-/

set_option autoImplicit false

namespace IncidentWatch

open Engine (Verdict)

/-- Requests that neither change the store nor take or give back a lock. -/
def Request.Spares : Request → Prop
  | .lock _ => False
  | .unlock _ => False
  | .create _ => False
  | .update _ => False
  | _ => True

namespace Stage

/-! ## The incidents of a stage -/

/-- The incidents that were read or written since the lock was taken. -/
def inHand : Stage → List Incident
  | .entered listed => listed
  | .found i => [i]
  | .probed i _ => [i]
  | .unreadable i => [i]
  | .counted i _ => [i]
  | .resolved i => [i]
  | .reread i _ => [i]
  | _ => []

/-- The incidents that the stage is about. -/
def incidents : Stage → List Incident
  | .judged i _ => [i]
  | .delivered i _ => [i]
  | .marking i _ => [i]
  | stage => stage.inHand

/-- The incident that the operation has resolved. -/
def closed? : Stage → Option Incident
  | .resolved i => some i
  | .judged i .resolved => some i
  | .delivered i .resolved => some i
  | .marking i .resolved => some i
  | .reread i .resolved => some i
  | _ => none

/-- The incident that was found active and is not resolved. -/
def live? : Stage → Option Incident
  | .found i => some i
  | .probed i _ => some i
  | .unreadable i => some i
  | .counted i _ => some i
  | .judged i .unresolved => some i
  | _ => none

variable (stage : Stage) {i j : Incident}

@[simp] theorem inHand_locked : stage.locked.inHand = [] := by
  cases stage <;> rfl

@[simp] theorem inHand_unlocked : stage.unlocked.inHand = [] := by
  cases stage <;> rfl

@[simp] theorem inHand_refused : stage.refused.inHand = [] := by
  cases stage <;> rfl

variable {stage}

theorem mem_inHand_updated (member : i ∈ (stage.updated j).inHand) : i = j := by
  cases stage <;> simp_all [updated, inHand]

theorem mem_inHand_read (member : i ∈ (stage.read j).inHand) : i = j := by
  have read : stage.read j = .leaving ∨ stage.read j = .found j ∨
      ∃ kind, stage.read j = .reread j kind := by
    unfold Stage.read
    split
    · exact Or.inr (Or.inr ⟨_, rfl⟩)
    · split
      · exact Or.inr (Or.inl rfl)
      · exact Or.inl rfl
  rcases read with same | same | ⟨kind, same⟩
  · simp [same, inHand] at member
  · simpa [same, inHand] using member
  · simpa [same, inHand] using member

theorem mem_inHand_shown {items : List Incident} (member : i ∈ (stage.shown items).inHand) :
    i ∈ items ∨ i ∈ stage.inHand := by
  cases stage <;> simp_all [shown, inHand]

theorem mem_inHand_asked {answer : Except QueryError RolloutHealth}
    (member : i ∈ (stage.asked answer).inHand) : i ∈ stage.inHand := by
  cases stage with
  | found j => cases answer <;> exact member
  | _ => exact member

theorem mem_inHand_announced {kind : AlertKind} {answer : Except String Unit}
    (member : i ∈ (stage.announced kind answer).inHand) : i ∈ stage.inHand := by
  cases stage with
  | judged j verdict => cases answer <;> exact member
  | _ => exact member

/-- In hand after an answer is what it shows, and what was in hand if the answer spares the lock
and the store. -/
theorem mem_inHand_next {r : Request} {a : r.Answer} (member : i ∈ (stage.next r a).inHand) :
    i ∈ Interleaving.shown r a ∨ r.Spares ∧ i ∈ stage.inHand := by
  cases r with
  | lock release => simp [next] at member
  | unlock release => simp [next] at member
  | create j => simp [next, inHand] at member
  | update j =>
      cases a with
      | ok written => exact Or.inl (List.mem_singleton.2 (mem_inHand_updated member))
      | error error => simp [next] at member
  | read id =>
      cases a with
      | ok j => exact Or.inl (List.mem_singleton.2 (mem_inHand_read member))
      | error error => simp [next] at member
  | list f p =>
      cases a with
      | ok page => exact (mem_inHand_shown member).imp id fun before => ⟨trivial, before⟩
      | error error => simp [next] at member
  | rollout namespaceName name limit => exact Or.inr ⟨trivial, mem_inHand_asked member⟩
  | deliver kind view => exact Or.inr ⟨trivial, mem_inHand_announced member⟩
  | pruneLocks => simp [next, inHand] at member
  | _ => exact Or.inr ⟨trivial, member⟩

theorem mem_incidents_locked (member : i ∈ stage.locked.incidents) : i ∈ stage.incidents := by
  cases stage <;> simp_all [locked, incidents, inHand]

theorem mem_incidents_unlocked (member : i ∈ stage.unlocked.incidents) : i ∈ stage.incidents := by
  cases stage <;> simp_all [unlocked, incidents, inHand]

theorem mem_incidents_refused (member : i ∈ stage.refused.incidents) : i ∈ stage.incidents := by
  cases stage <;> simp_all [refused, incidents, inHand]

theorem mem_incidents_updated (member : i ∈ (stage.updated j).incidents) : i = j := by
  cases stage <;> simp_all [updated, incidents, inHand]

theorem mem_incidents_read (member : i ∈ (stage.read j).incidents) : i = j := by
  have same : (stage.read j).incidents = (stage.read j).inHand := by
    cases stage <;> simp only [read] <;> try split
    all_goals rfl
  rw [same] at member
  exact mem_inHand_read member

theorem mem_incidents_shown {items : List Incident} (member : i ∈ (stage.shown items).incidents) :
    i ∈ items ∨ i ∈ stage.incidents := by
  cases stage <;> simp_all [shown, incidents, inHand]

theorem mem_incidents_asked {answer : Except QueryError RolloutHealth}
    (member : i ∈ (stage.asked answer).incidents) : i ∈ stage.incidents := by
  cases stage with
  | found j => cases answer <;> exact member
  | _ => exact member

theorem mem_incidents_announced {kind : AlertKind} {answer : Except String Unit}
    (member : i ∈ (stage.announced kind answer).incidents) : i ∈ stage.incidents := by
  cases stage with
  | judged j verdict =>
      cases answer with
      | ok delivered => exact member
      | error text => cases member
  | _ => exact member

/-- The incidents after an answer are those that it shows and those from before. -/
theorem mem_incidents_next {r : Request} {a : r.Answer} (member : i ∈ (stage.next r a).incidents) :
    i ∈ Interleaving.shown r a ∨ i ∈ stage.incidents := by
  cases r with
  | lock release => exact Or.inr (mem_incidents_locked member)
  | unlock release => exact Or.inr (mem_incidents_unlocked member)
  | create j => simp [next, incidents, inHand] at member
  | update j =>
      cases a with
      | ok written => exact Or.inl (List.mem_singleton.2 (mem_incidents_updated member))
      | error error => exact Or.inr (mem_incidents_refused member)
  | read id =>
      cases a with
      | ok j => exact Or.inl (List.mem_singleton.2 (mem_incidents_read member))
      | error error => exact Or.inr (mem_incidents_refused member)
  | list f p =>
      cases a with
      | ok page => exact mem_incidents_shown member
      | error error => exact Or.inr (mem_incidents_refused member)
  | rollout namespaceName name limit => exact Or.inr (mem_incidents_asked member)
  | deliver kind view => exact Or.inr (mem_incidents_announced member)
  | pruneLocks => simp [next, incidents, inHand] at member
  | _ => exact Or.inr member

/-! ## Stages of a batch -/

/-- The stages that a batch passes through. -/
def Filing : Stage → Prop
  | .apart => True
  | .entered _ => True
  | .leaving => True
  | _ => False

theorem Filing.owesNothing (filing : stage.Filing) : stage.OwesNothing := by
  cases stage <;> trivial

theorem Filing.closed? (filing : stage.Filing) : stage.closed? = none := by
  cases stage with
  | apart => rfl
  | entered listed => rfl
  | leaving => rfl
  | _ => exact filing.elim

theorem Filing.live? (filing : stage.Filing) : stage.live? = none := by
  cases stage with
  | apart => rfl
  | entered listed => rfl
  | leaving => rfl
  | _ => exact filing.elim

end Stage

namespace Engine

variable {e : Engine} {now : Instant} {events : List Event} {stage : Stage} {r : Request}

theorem filing_of_batchMay (may : e.BatchMay now events stage r) : stage.Filing := by
  cases stage <;> trivial

/-- A batch stays in its stages. -/
theorem filing_next (may : e.BatchMay now events stage r) (a : r.Answer) :
    (stage.next r a).Filing := by
  unfold BatchMay at may
  split at may
  · trivial
  · have quiet : e.BatchMay now events .apart r ∧ ∀ a, Stage.apart.next r a = .apart :=
      quietly_apart r may
    rw [quiet.2 a]
    trivial
  · cases a <;> trivial
  · trivial
  · trivial
  · cases a <;> trivial
  · trivial
  · trivial
  · trivial
  · exact may.elim

/-! ## Rules of operations -/

open Interleaving (Operation Outcome)

/-- What an operation may ask for. -/
def May (e : Engine) : Operation → Stage → Request → Prop
  | .batch events now => e.BatchMay now events
  | .sweep now => e.SweepMay now

/-- Where an operation can end. -/
def Ends (e : Engine) : Operation → Stage → Prop
  | .batch _ _ => (· = .apart)
  | .sweep now => e.Between now

/-- Operations follow their rules. -/
theorem follows_operation (e : Engine) (op : Operation) :
    (op.program e).Follows (e.May op) (fun _ => e.Ends op) .apart := by
  cases op with
  | batch events now =>
      apply Program.follows_bind
      apply Program.Follows.mono (follows_handleBatch e events now)
      intro result stage apart
      cases result <;> exact apart
  | sweep now =>
      apply Program.follows_bind
      apply Program.Follows.mono (follows_sweep e now)
      intro result stage done
      cases result with
      | ok report => exact Or.inl done
      | error error => exact done

end Engine

namespace Interleaving

open IncidentWatch.Interleaving.System

/-! ## Reading the history -/

/-- The stage that an operation has reached. -/
def stageOf (t : Nat) : List Entry → Stage
  | [] => .apart
  | entry :: earlier =>
    if entry.task = t then
      match entry.what with
      | .answered r a => (stageOf t earlier).next r a
      | _ => .apart
    else stageOf t earlier

/-- The operation that was begun under a number. -/
def operationOf (t : Nat) : List Entry → Option Operation
  | [] => none
  | entry :: earlier =>
    if entry.task = t then
      match entry.what with
      | .begun op => some op
      | _ => operationOf t earlier
    else operationOf t earlier

variable {e : Engine} {s s' : System} {t u : Nat} {task : Task}

@[simp] theorem stageOf_of_other {what : Happening} {earlier : List Entry} (apart : u ≠ t) :
    stageOf u (⟨t, what⟩ :: earlier) = stageOf u earlier := by
  simp [stageOf, apart.symm]

@[simp] theorem stageOf_answered {r : Request} {a : r.Answer} {earlier : List Entry} :
    stageOf t (⟨t, .answered r a⟩ :: earlier) = (stageOf t earlier).next r a := by
  simp [stageOf]

theorem stageOf_noted {what : Happening} {earlier : List Entry}
    (leaves : ∀ r a, what ≠ .answered r a) : stageOf t (⟨t, what⟩ :: earlier) = .apart := by
  cases what with
  | answered r a => exact absurd rfl (leaves r a)
  | _ => simp [stageOf]

@[simp] theorem operationOf_of_other {what : Happening} {earlier : List Entry} (apart : u ≠ t) :
    operationOf u (⟨t, what⟩ :: earlier) = operationOf u earlier := by
  simp [operationOf, apart.symm]

@[simp] theorem operationOf_answered {r : Request} {a : r.Answer} {earlier : List Entry} :
    operationOf t (⟨t, .answered r a⟩ :: earlier) = operationOf t earlier := by
  simp [operationOf]

theorem move_stageOf (move : Move e s t s') (apart : u ≠ t) :
    stageOf u s'.history = stageOf u s.history := by
  cases move with
  | begun op => exact stageOf_of_other apart
  | queued here asks new => rfl
  | answered here asks granted served => exact stageOf_of_other apart
  | ended here finished => exact stageOf_of_other apart
  | stopped here => exact stageOf_of_other apart

theorem move_operationOf (move : Move e s t s') (apart : u ≠ t) :
    operationOf u s'.history = operationOf u s.history := by
  cases move with
  | begun op => exact operationOf_of_other apart
  | queued here asks new => rfl
  | answered here asks granted served => exact operationOf_of_other apart
  | ended here finished => exact operationOf_of_other apart
  | stopped here => exact operationOf_of_other apart

/-- What an operation under way asks for next. -/
def System.asks? (s : System) (t : Nat) : Option Request :=
  match s.tasks t with
  | some ⟨_, .ask r _, _⟩ => some r
  | _ => none

theorem asks?_eq_some {r : Request} (asking : s.asks? t = some r) :
    ∃ task next, s.tasks t = some task ∧ task.rest = .ask r next := by
  unfold asks? at asking
  split at asking
  · rename_i op r' next waiting here
    cases asking
    exact ⟨_, next, here, rfl⟩
  · cases asking

/-! ## On course -/

/-- What is left of an operation follows its rule, from the stage that it has reached on. -/
structure OnCourse (e : Engine) (s : System) (t : Nat) : Prop where
  idle : s.tasks t = none → stageOf t s.history = .apart
  begun : ∀ task, s.tasks t = some task → operationOf t s.history = some task.operation
  follows : ∀ task, s.tasks t = some task →
    task.rest.Follows (e.May task.operation) (fun _ => e.Ends task.operation)
      (stageOf t s.history)

theorem onCourse_leave {what : Happening} (leaves : ∀ r a, what ≠ .answered r a) :
    OnCourse e (s.leave t what) t := by
  have gone : (s.leave t what).tasks t = none := by simp [leave]
  refine ⟨fun _ => stageOf_noted leaves, fun task here => ?_, fun task here => ?_⟩
  · rw [gone] at here
    cases here
  · rw [gone] at here
    cases here

theorem onCourse_begin (op : Operation) : OnCourse e (s.begin e op) s.begun := by
  have begun : (s.begin e op).tasks s.begun = some ⟨op, op.program e, false⟩ :=
    Function.update_self s.begun _ s.tasks
  have starts : stageOf s.begun (s.begin e op).history = .apart :=
    stageOf_noted fun _ _ same => nomatch same
  refine ⟨fun _ => starts, fun task here => ?_, fun task here => ?_⟩
  · rw [begun] at here
    cases here
    simp [begin, Situation.note, operationOf]
  · rw [begun] at here
    cases here
    rw [starts]
    exact Engine.follows_operation e op

namespace OnCourse

variable (onCourse : OnCourse e s t)
include onCourse

theorem queue (here : s.tasks t = some task) (release : ReleaseKey) :
    OnCourse e (s.queue t task release) t := by
  have queued : (s.queue t task release).tasks t = some { task with waiting := true } :=
    Function.update_self t _ s.tasks
  refine ⟨fun gone => ?_, fun task' here' => ?_, fun task' here' => ?_⟩
  · rw [queued] at gone
    cases gone
  · rw [queued] at here'
    cases here'
    exact onCourse.begun task here
  · rw [queued] at here'
    cases here'
    exact onCourse.follows task here

theorem resume {r : Request} {next : r.Answer → Program Outcome} (here : s.tasks t = some task)
    (asks : task.rest = .ask r next) (a : r.Answer) (store : Store) :
    OnCourse e (s.resume t task.operation r a store (next a)) t := by
  have resumed : (s.resume t task.operation r a store (next a)).tasks t =
      some ⟨task.operation, next a, false⟩ := Function.update_self t _ s.tasks
  refine ⟨fun gone => ?_, fun task' here' => ?_, fun task' here' => ?_⟩
  · rw [resumed] at gone
    cases gone
  · rw [resumed] at here'
    cases here'
    exact operationOf_answered.trans (onCourse.begun task here)
  · rw [resumed] at here'
    cases here'
    have follows := onCourse.follows task here
    rw [asks] at follows
    show (next a).Follows _ _ (stageOf t (⟨t, .answered r a⟩ :: s.history))
    rw [stageOf_answered]
    exact follows.2 a

theorem other (move : Move e s u s') (apart : t ≠ u) : OnCourse e s' t := by
  refine ⟨?_, ?_, ?_⟩
  · rw [move_tasks move apart, move_stageOf move apart]
    exact onCourse.idle
  · rw [move_tasks move apart, move_operationOf move apart]
    exact onCourse.begun
  · rw [move_tasks move apart, move_stageOf move apart]
    exact onCourse.follows

omit onCourse in
theorem move (onCourse : ∀ u, OnCourse e s u) (move : Move e s t s') (u : Nat) :
    OnCourse e s' u := by
  by_cases apart : u ≠ t
  · exact (onCourse u).other move apart
  · cases not_not.1 apart
    cases move with
    | begun op => exact onCourse_begin op
    | queued here asks new => exact (onCourse _).queue here _
    | answered here asks granted served => exact (onCourse _).resume here asks _ _
    | ended here finished => exact onCourse_leave fun _ _ same => nomatch same
    | stopped here => exact onCourse_leave fun _ _ same => nomatch same

/-- Whatever an operation stands before, its rule allows. -/
theorem may {r : Request} {next : r.Answer → Program Outcome}
    (here : s.tasks t = some task) (asks : task.rest = .ask r next) :
    e.May task.operation (stageOf t s.history) r := by
  have follows := onCourse.follows task here
  rw [asks] at follows
  exact follows.1

end OnCourse

/-- Operations are on course after every schedule. -/
theorem onCourse_after (e : Engine) (schedule : List Turn) (t : Nat) :
    OnCourse e (after e schedule) t := by
  revert t
  refine after_moves (P := fun s => ∀ t, OnCourse e s t) ?_ ?_ schedule
  · intro t
    exact ⟨fun _ => rfl, fun _ here => (nomatch here), fun _ here => (nomatch here)⟩
  · intro earlier t s' onCourse move
    exact OnCourse.move onCourse move

end Interleaving

end IncidentWatch

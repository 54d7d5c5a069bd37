import IncidentWatch.Simulation.Serve

/-!
# Activities side by side

Several activities run on one thread. They are gone through in order, again and again:
each runs as far as it can, until it waits for time to pass or for a lock. When
none can go on, time jumps to the earliest moment that one of them waits for.
-/

set_option autoImplicit false

namespace IncidentWatch.Simulation

/-- Where an activity among others is. -/
inductive Standing (α : Type) where
  | ready (t : Activity α)
  | asleep (wake : Nat) (t : Activity α)
  | queued (t : Activity α)
  | ended (e : Ending α)

namespace Standing

variable {α : Type}

/-- Runs an activity until it has to wait; locks are asked for under the activity's number. -/
def advance (name : Nat) : Activity α → World → Standing α × World
  | .done a, w => (.ended (.value a), w)
  | .halt f, w => (.ended (.fault f), Activity.releaseAll name w)
  | .act change k, w => advance name (k w) (change w)
  | .sleep ms k, w => (.asleep (w.elapsed + ms) k, w)
  | .lock release k, w =>
    let w := { w with locks := w.locks.request name release }
    if w.locks.holds name then advance name k w else (.queued k, w)
  | .unlock _ k, w => advance name k (Activity.releaseAll name w)

/-- Whether an activity can go on. -/
def canGoOn (name : Nat) (w : World) : Standing α → Bool
  | ready _ => true
  | asleep wake _ => wake ≤ w.elapsed
  | queued _ => w.locks.holds name
  | ended _ => false

/-- What is left of an activity. -/
def rest? : Standing α → Option (Activity α)
  | ready t => some t
  | asleep _ t => some t
  | queued t => some t
  | ended _ => none

/-- Lets an activity go on if it can. -/
def turn (name : Nat) (s : Standing α) (w : World) : Standing α × World :=
  match s.rest? with
  | some t => if s.canGoOn name w then advance name t w else (s, w)
  | none => (s, w)

/-- When an activity wants to be woken. -/
def wake? : Standing α → Option Nat
  | asleep wake _ => some wake
  | _ => none

/-- How an activity ended, if it did. -/
def ending? : Standing α → Option (Ending α)
  | ended e => some e
  | _ => none

end Standing

namespace Pool

variable {α : Type}

/-- Lets each activity go on that can, in order; `name` is the number of the first. -/
def round (name : Nat) : List (Standing α) → World → List (Standing α) × World
  | [], w => ([], w)
  | s :: rest, w =>
    let (s, w) := s.turn name w
    let (rest, w) := round (name + 1) rest w
    (s :: rest, w)

/-- Whether some activity can go on; `name` is the number of the first. -/
def anyCanGoOn (name : Nat) (w : World) : List (Standing α) → Bool
  | [] => false
  | s :: rest => s.canGoOn name w || anyCanGoOn (name + 1) w rest

/-- Goes through the activities for a number of turns, each a round or a jump in time. -/
def turns : Nat → List (Standing α) → World → List (Standing α) × World
  | 0, pool, w => (pool, w)
  | n + 1, pool, w =>
    if anyCanGoOn 1 w pool then
      let (pool, w) := round 1 pool w
      turns n pool w
    else match (pool.filterMap (·.wake?)).min? with
      | some wake => turns n pool { w with elapsed := wake }
      | none => (pool, w)

/-- A bound on the turns that batches take: each asks the cluster twice and the store for no more
pages than there will be incidents, takes one lock and writes once. -/
def turnBound (batches : Nat) (w : World) : Nat :=
  2 * batches * (w.store.size + batches + 8)

/-- Runs the activities of batches side by side to their ends. -/
def run (activities : List (Activity α)) (w : World) : List (Ending α) × World :=
  let (pool, w) := turns (turnBound activities.length w) (activities.map .ready) w
  (pool.map fun s => s.ending?.getD .cutOff, w)

end Pool

end IncidentWatch.Simulation

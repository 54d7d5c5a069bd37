import IncidentWatch.Simulation.World

/-!
# Activities in virtual time

An activity changes the world step by step, and in between it may wait: for time to
pass, or for the lock of a release. An activity that is alone runs until it ends or
until a deadline cuts it off; then it gives back the locks it asked for.
-/

set_option autoImplicit false

namespace IncidentWatch.Simulation

/-- What an activity does. After a change it goes on by the world before that change. -/
inductive Activity (α : Type) where
  | done (a : α)
  | halt (fault : Fault)
  | act (change : World → World) (next : World → Activity α)
  | sleep (milliseconds : Nat) (next : Activity α)
  | lock (release : ReleaseKey) (next : Activity α)
  | unlock (release : ReleaseKey) (next : Activity α)

/-- How an activity ended. -/
inductive Ending (α : Type) where
  | value (a : α)
  | fault (f : Fault)
  | cutOff

namespace Activity

variable {α β : Type}

/-- Goes on with the value of an activity. -/
def andThen (t : Activity α) (next : α → Activity β) : Activity β :=
  match t with
  | done a => next a
  | halt f => .halt f
  | act change k => .act change fun w => (k w).andThen next
  | sleep ms k => .sleep ms (k.andThen next)
  | lock release k => .lock release (k.andThen next)
  | unlock release k => .unlock release (k.andThen next)

instance : Monad Activity where
  pure := done
  bind := andThen

/-- Changes the world. -/
def change (f : World → World) : Activity Unit :=
  .act f fun _ => .done ()

/-- Does what also gives a value. -/
def perform (f : World → α × World) : Activity α :=
  .act (fun w => (f w).2) fun w => .done (f w).1

/-- Lets time pass; no time at all is no wait. -/
def pause (milliseconds : Nat) : Activity Unit :=
  if milliseconds = 0 then .done () else .sleep milliseconds (.done ())

/-- What has a fault ends the activity. -/
def checked : Except Fault α → Activity α
  | .ok a => .done a
  | .error f => .halt f

/-- Gives back all locks of an activity. -/
def releaseAll (name : Nat) (w : World) : World :=
  { w with locks := w.locks.release name }

/-- The name of an activity that is alone. -/
def aloneName : Nat := 0

/-- Runs an activity that is alone to its end or to a deadline; what is ready at the deadline is
still done. -/
def run (deadline : Option Nat) : Activity α → World → Ending α × World
  | done a, w => (.value a, w)
  | halt f, w => (.fault f, releaseAll aloneName w)
  | act change k, w => (k w).run deadline (change w)
  | sleep ms k, w =>
    let wake := w.elapsed + ms
    match deadline with
    | some stop =>
      if wake ≤ stop then k.run deadline { w with elapsed := wake }
      else (.cutOff, releaseAll aloneName { w with elapsed := max w.elapsed stop })
    | none => k.run deadline { w with elapsed := wake }
  | lock release k, w => k.run deadline { w with locks := w.locks.request aloneName release }
  | unlock _ k, w => k.run deadline (releaseAll aloneName w)

end Activity

end IncidentWatch.Simulation

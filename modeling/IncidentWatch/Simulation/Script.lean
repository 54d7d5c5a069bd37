import IncidentWatch.Cluster.Lookup
import IncidentWatch.Engine.Program

/-!
# Scripts for the collaborators

In a simulation the collaborators behave by script. A disturbance lets the first
calls pass and then acts a number of times, or for ever. The store can fail, be
slow, or answer that an incident is resolved; the notifier can be slow and can
fail. Of the cluster a script says what it answers about a pod or a deployment,
and after what time.
-/

set_option autoImplicit false

namespace IncidentWatch.Simulation

/-- A disturbance that lets calls pass before it acts, and may act only so often. -/
structure Disturbance (α : Type) where
  effect : α
  skip : Nat := 0
  times : Option Nat := none

namespace Disturbance

variable {α : Type}

/-- The effect on the next call, and the disturbance after it. -/
def next (d : Disturbance α) : Option α × Disturbance α :=
  match d.skip, d.times with
  | skip + 1, _ => (none, { d with skip })
  | 0, some 0 => (none, d)
  | 0, some (times + 1) => (some d.effect, { d with times := some times })
  | 0, none => (some d.effect, d)

end Disturbance

/-- What can happen to a call of the store. -/
inductive StoreEffect where
  | fail (text : String)
  | notFound
  | delay (milliseconds : Nat)
  | resolved

/-- The calls of the store that can be disturbed. -/
inductive StoreCall where
  | create
  | update
  | read
  | list
  deriving DecidableEq, Repr

/-- The disturbances of the calls of the store. -/
structure StoreScript where
  create : Option (Disturbance StoreEffect) := none
  update : Option (Disturbance StoreEffect) := none
  read : Option (Disturbance StoreEffect) := none
  list : Option (Disturbance StoreEffect) := none

namespace StoreScript

def get (s : StoreScript) : StoreCall → Option (Disturbance StoreEffect)
  | .create => s.create
  | .update => s.update
  | .read => s.read
  | .list => s.list

def set (s : StoreScript) (call : StoreCall) (d : Option (Disturbance StoreEffect)) :
    StoreScript :=
  match call with
  | .create => { s with create := d }
  | .update => { s with update := d }
  | .read => { s with read := d }
  | .list => { s with list := d }

end StoreScript

/-- What can happen to a delivery: a delay, and a failure with its causes, the outermost first. -/
structure DeliveryEffect where
  delay : Nat := 0
  failure : Option (List String) := none

/-- What the cluster answers, and after how many milliseconds; a failure has its causes, the
outermost first. -/
structure Answer (α : Type) where
  result : Except (List String) α
  delay : Nat := 0

/-- The text of a failure with its causes. -/
def causeText (causes : List String) : String :=
  ": ".intercalate causes

/-- The answers about namesakes, by namespace and name or, for all others, under a star. -/
abbrev Answers (α : Type) := ByName (Answer α)

/-- The answer about an object. -/
def answerTo {α : Type} (answers : Answers α) (namespaceName name : String) (missing : String) :
    Answer α :=
  ((answers.get? (namespaceName ++ "/" ++ name)).or (answers.get? "*")).getD
    ⟨.error [missing], 0⟩

/-- The cluster by script, or as a server of objects. -/
inductive ClusterScript where
  | answers (owners : Answers OwnerRef) (rollouts : Answers RolloutHealth)
  | server (texts : ByName (Option String))

namespace ClusterScript

/-- Changes what is answered about a pod. -/
def setOwner (c : ClusterScript) (pod : String) (answer : Option (Answer OwnerRef)) :
    ClusterScript :=
  match c with
  | .answers owners rollouts => .answers (owners.set pod answer) rollouts
  | .server texts => .server texts

/-- Changes what is answered about a deployment. -/
def setRollout (c : ClusterScript) (deployment : String)
    (answer : Option (Answer RolloutHealth)) : ClusterScript :=
  match c with
  | .answers owners rollouts => .answers owners (rollouts.set deployment answer)
  | .server texts => .server texts

/-- Changes what a server has at a path. -/
def setText (c : ClusterScript) (path : String) (text : Option (Option String)) : ClusterScript :=
  match c with
  | .answers owners rollouts => .answers owners rollouts
  | .server texts => .server (texts.set path text)

end ClusterScript

/-- A batch that arrives at an instant. -/
structure Batch where
  events : List Event
  now : Instant

/-- The notifier by script, or one that writes to the log. -/
inductive NotifierScript where
  | scripted (effect : Option (Disturbance DeliveryEffect)) (during : List Batch)
  | log

end IncidentWatch.Simulation

import IncidentWatch.Proofs.Interleaving.System

/-!
# A small engine

An engine with three rules, of which two are of primary causes, and a cluster in which
every pod belongs to one stateful set and every question but that for its health is
answered.
-/

set_option autoImplicit false

namespace IncidentWatch.Interleaving.Sample

/-- A rule for one reason, whatever the message. -/
def rule (reason summary : String) (primary : Bool) : Rule where
  spec := ⟨.event, reason, "", summary, .message, primary⟩
  message := .empty
  reads := by
    show Pattern.parse? "" = some .empty
    decide

def table : RuleTable where
  version := defaultVersion
  rules := [rule "OOMKilled" "out of memory" true, rule "BackOff" "crash looping" true,
    rule "Unhealthy" "not ready" false]

def engine : Engine where
  classifier := ⟨⟨⟨[(table.version, table)], by decide⟩⟩, defaultVersion⟩
  settings := {}
  node := "node"

/-- An event of a pod, for a reason. -/
def event (pod reason : String) : Event where
  podName := pod
  podNamespace := "default"
  source := .event
  reason := reason
  message := ""
  exitCode := none
  severity := .critical
  timestamp := .epoch
  owner := none
  chartName := none
  releaseName := none

def owner : OwnerRef where
  kind := .statefulSet
  name := "web"
  namespaceName := "default"
  chartName := "web-1.0.0"
  releaseName := "web"
  helmRevision := 3

/-- An active incident of the stateful set, not seen since the epoch. -/
def incident (id : String) : Incident where
  id := id
  releaseName := "web"
  releaseNamespace := "default"
  chartName := "web-1.0.0"
  involvedObject := owner.involvedObject
  severity := .normal
  status := .active
  createdAt := .epoch
  lastSeen := .epoch
  lastAlerted := none
  resolvedTime := none
  resolvedRetryCount := 0
  events := []

/-- Collaborators that answer, with an id to give out. -/
def willing (id : String) : Collaborators where
  answer := fun
    | .lock _ => ()
    | .unlock _ => ()
    | .pruneLocks => ()
    | .create _ => .ok ()
    | .update _ => .ok ()
    | .read id => .error (.notFound id)
    | .list _ _ => .error (.backend "")
    | .owner _ _ => .ok owner
    | .rollout _ _ _ => .error (.failed "")
    | .deliver _ _ => .ok ()
    | .log _ => ()
    | .measure _ => ()
    | .succeeded _ => ()
    | .failed _ _ => ()
    | .health => {}
    | .freshId => id

/-- A deployment that owns every pod. -/
def deployment : OwnerRef :=
  { owner with kind := .deployment }

/-- A rollout of two replicas, with so many of them ready. -/
def rollout (ready : Int32) : RolloutHealth :=
  ⟨2, ready, 0⟩

/-- Collaborators that answer for a deployment, with an id to give out. -/
def deployed (ready : Int32) (id : String) : Collaborators where
  answer := fun
    | .owner _ _ => .ok deployment
    | .rollout _ _ _ => .ok (rollout ready)
    | r => (willing id).answer r

/-- Collaborators of which the notifier refuses to deliver. -/
def refusing : Collaborators where
  answer := fun
    | .deliver _ _ => .error "refused"
    | r => (willing "").answer r

/-- An operation goes on for a number of turns, with one id to give out. -/
def going (t : Nat) (id : String) (turns : Nat) : List Turn :=
  List.replicate turns (.proceed t (willing id))

/-- The operation of a number begins, and goes on for a number of turns. -/
def running (t : Nat) (op : Operation) (id : String) (turns : Nat) : List Turn :=
  .begin op :: going t id turns

/-- The operation of a number begins, and goes on with the same collaborators. -/
def runningWith (c : Collaborators) (t : Nat) (op : Operation) (turns : Nat) : List Turn :=
  .begin op :: List.replicate turns (.proceed t c)

/-- The instant so many seconds after the epoch. -/
def afterSeconds (seconds : Int) : Instant :=
  (Instant.ofParts? seconds 0).getD .epoch

/-- The instant when a quiet incident counts as settled. -/
def settled : Instant :=
  (Instant.ofParts? 82800 0).getD .epoch

end IncidentWatch.Interleaving.Sample

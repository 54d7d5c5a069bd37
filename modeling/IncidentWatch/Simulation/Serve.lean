import IncidentWatch.Engine.Loop
import IncidentWatch.Simulation.Activity

/-!
# Serving requests

In a simulation, the requests of a program are served by the simulated world. A
call to the cluster is observed when it is made, a delivery when it is finished;
a question whose answer takes longer than its limit is given up at the limit. A
delivery may bring in batches that arrive while it is under way.
-/

set_option autoImplicit false

namespace IncidentWatch.Simulation

open Activity

/-- A call of the store, after what may happen to it. -/
def callStore {α : Type} (call : StoreCall) (id : String)
    (work : (resolved : Bool) → Activity (Except StoreError α)) :
    Activity (Except StoreError α) := do
  match ← perform (·.disturb call) with
  | none => work false
  | some (.fail text) => return .error (.backend text)
  | some .notFound => return .error (.notFound id)
  | some (.delay ms) => do
    pause ms
    work false
  | some .resolved => work true

/-- An incident as the store answers it, or the same as if it were resolved. -/
def readStore (id : String) (resolved : Bool) : Activity (Except StoreError Incident) :=
  perform fun w =>
    ((w.store.read id).map fun i => if resolved then { i with status := .resolved } else i, w)

/-- A page of the store. -/
def listStore (f : IncidentFilter) (p : Pagination) :
    Activity (Except StoreError (Page Incident)) := do
  let page ← checked (← perform fun w => (w.store.list f p, w))
  return .ok page

/-- A question with a limit. -/
def ask {α : Type} (question : String) (limit : Nat) (a : Answer α) :
    Activity (Except QueryError α) := do
  if a.delay ≤ limit then
    pause a.delay
    return a.result.mapError fun causes => .failed (causeText causes)
  else
    pause limit
    return .error (.timedOut question)

/-- What a lookup on a server finds, with its requests and its log entries. -/
def lookUp {α : Type} (l : Lookup α) : Activity (Except QueryError α) := do
  change fun w => l.requests.foldl (fun w text => w.call (.request text)) w
  change fun w => l.logs.foldl World.log w
  return l.result.mapError .failed

/-- The server of texts. -/
def serverOf (texts : ByName (Option String)) : ApiServer := fun path =>
  (texts.get? path).join

/-- The owner of a pod. -/
def askOwner (pod : PodRef) (limit : Nat) : Activity (Except QueryError OwnerRef) := do
  match ← perform fun w => (w.cluster, w) with
  | .answers owners _ => do
    change (·.call (.owner pod))
    ask "owner resolution" limit
      (answerTo owners pod.namespaceName pod.name ("pods \"" ++ pod.name ++ "\" not found"))
  | .server texts => lookUp ((serverOf texts).resolveOwner pod)

/-- The health of a deployment. -/
def askRollout (namespaceName name : String) (limit : Nat) :
    Activity (Except QueryError RolloutHealth) := do
  match ← perform fun w => (w.cluster, w) with
  | .answers _ rollouts => do
    change (·.call (.rollout namespaceName name))
    ask "deployment health" limit
      (answerTo rollouts namespaceName name ("deployments.apps \"" ++ name ++ "\" not found"))
  | .server texts => do
    match ← lookUp ((serverOf texts).rolloutHealth namespaceName name) with
    | .ok health => return .ok (← checked health)
    | .error e => return .error e

/-- Takes what the notifier's script says of the next delivery. -/
def disturbDelivery (w : World) : Option DeliveryEffect × World :=
  match w.notifier with
  | .scripted (some d) during =>
    let (effect, d) := d.next
    (effect, { w with notifier := .scripted (some d) during })
  | _ => (none, w)

/-- Takes the batches that arrive during the next delivery. -/
def takeArrivals (w : World) : List Batch × World :=
  match w.notifier with
  | .scripted effect during => (during, { w with notifier := .scripted effect [] })
  | .log => ([], w)

/-- Delivers a notification, while batches are taken in by `arrive`. -/
def deliver (arrive : Batch → Activity Unit) (kind : AlertKind) (view : IncidentView) :
    Activity (Except String Unit) := do
  match ← perform fun w => (w.notifier, w) with
  | .log => do
    change (·.log (Journal.notification kind view))
    return .ok ()
  | .scripted _ _ => do
    let effect := (← perform disturbDelivery).getD {}
    pause effect.delay
    (← perform takeArrivals).forM arrive
    change (·.deliver ⟨kind, effect.failure.isSome, view⟩)
    return match effect.failure with
      | some causes => .error (causeText causes)
      | none => .ok ()

/-- A component's work failed. -/
def recordFailure (c : Component) (text : String) : Activity Unit := do
  let health ← checked (← perform fun w => (w.health.fail c.name text w.present, w))
  change fun w => { w with health }

/-- Serves one request, while batches that arrive are taken in by `arrive`. -/
def serve (arrive : Batch → Activity Unit) : (r : Request) → Activity r.Answer
  | .lock release => .lock release (.done ())
  | .unlock release => .unlock release (.done ())
  | .pruneLocks => change fun w => { w with locks := w.locks.prune }
  | .create i => do
    change (·.noteIds i)
    callStore .create i.id fun _ => perform (·.create i)
  | .update i => do
    change (·.noteIds i)
    callStore .update i.id fun _ => perform (·.update i)
  | .read id => callStore .read id (readStore id)
  | .list f p => callStore .list "" fun _ => listStore f p
  | .owner pod limit => askOwner pod limit
  | .rollout namespaceName name limit => askRollout namespaceName name limit
  | .deliver kind view => deliver arrive kind view
  | .log entry => change (·.log entry)
  | .measure m => change fun w => { w with metrics := w.metrics.record m }
  | .succeeded c => change fun w => { w with health := w.health.succeed c.name w.present }
  | .failed c text => recordFailure c text
  | .health => perform fun w => (w.health, w)
  | .freshId => perform fun w => (World.madeId (w.idCount + 1), { w with idCount := w.idCount + 1 })

/-- The activity of a program whose requests are served by `serve`. -/
def activityOf {α : Type} (serve : (r : Request) → Activity r.Answer) : Program α → Activity α
  | .done a => .done a
  | .halt f => .halt f
  | .ask r next => (serve r).andThen fun answer => activityOf serve (next answer)

/-- The activity of a program during which no batches arrive. -/
def quietActivity {α : Type} (p : Program α) : Activity α :=
  activityOf (serve fun _ => .done ()) p

/-- Takes in a batch. -/
def arrive (e : Engine) (b : Batch) : Activity Unit := do
  let _ ← quietActivity (e.handleBatch b.events b.now).run
  return ()

/-- The activity of a program of an engine that takes in the batches that arrive. -/
def activity {α : Type} (e : Engine) (p : Program α) : Activity α :=
  activityOf (serve (arrive e)) p

end IncidentWatch.Simulation

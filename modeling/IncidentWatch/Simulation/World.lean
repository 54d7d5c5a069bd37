import IncidentWatch.Lock
import IncidentWatch.Simulation.Script

/-!
# The simulated world

A world holds what the collaborators of the engine know and do, and what was
observed of them: calls to the cluster, notifications, metrics and the log. Time
in it is counted in milliseconds and passes only where something waits.
-/

set_option autoImplicit false

namespace IncidentWatch.Simulation

/-- A call to the cluster. -/
inductive Call where
  | owner (pod : PodRef)
  | rollout (namespaceName name : String)
  | request (text : String)

/-- A delivery that the notifier has finished. -/
structure Delivery where
  kind : AlertKind
  failed : Bool
  view : IncidentView

/-- What is observed while a step is done, latest first. -/
structure Observed where
  calls : List Call := []
  deliveries : List Delivery := []
  logs : List LogEntry := []

/-- A simulated world. -/
structure World where
  /-- The instant that clocks show. -/
  present : Instant
  /-- The milliseconds that have passed. -/
  elapsed : Nat := 0
  store : Store := .empty
  storeScript : StoreScript := {}
  cluster : ClusterScript
  notifier : NotifierScript := .scripted none []
  locks : ReleaseLocks Nat := {}
  metrics : Metrics := {}
  health : HealthRegistry := {}
  observed : Observed := {}
  /-- How many ids were made. -/
  idCount : Nat := 0
  /-- The ids that were made and have reached the store, in order. -/
  storedIds : List String := []

namespace World

def log (w : World) (entry : LogEntry) : World :=
  { w with observed := { w.observed with logs := entry :: w.observed.logs } }

def call (w : World) (c : Call) : World :=
  { w with observed := { w.observed with calls := c :: w.observed.calls } }

def deliver (w : World) (d : Delivery) : World :=
  { w with observed := { w.observed with deliveries := d :: w.observed.deliveries } }

/-- The beginning of the ids that are made, which have the form of random ones. -/
def idStart : String := "00000000-0000-4000-8000-"

/-- The id of a number. -/
def madeId (n : Nat) : String :=
  idStart ++ String.ofList (Text.padded 12 n)

/-- Whether an id was made. -/
def isMade (id : String) : Bool :=
  idStart.toList.isPrefixOf id.toList

/-- Notes an id, if it was made and is not noted yet. -/
def noteId (known : List String) (id : String) : List String :=
  if isMade id && !known.contains id then known ++ [id] else known

/-- Notes the ids of an incident that comes to the store. -/
def noteIds (w : World) (i : Incident) : World :=
  { w with storedIds := (i.id :: i.events.map (·.id)).foldl noteId w.storedIds }

/-- The effect on the next call of the store. -/
def disturb (w : World) (call : StoreCall) : Option StoreEffect × World :=
  match w.storeScript.get call with
  | none => (none, w)
  | some d =>
    let (effect, d) := d.next
    (effect, { w with storeScript := w.storeScript.set call (some d) })

/-- Creates an incident in the store. -/
def create (w : World) (i : Incident) : Except StoreError Unit × World :=
  match w.store.create i with
  | .ok store =>
    let entry := LogEntry.debug "Storing incident"
      [("incident_id", .str i.id), ("seq", .int w.store.size)]
    (.ok (), { w with store }.log entry)
  | .error e => (.error e, w)

/-- Replaces an incident in the store. -/
def update (w : World) (i : Incident) : Except StoreError Unit × World :=
  match w.store.update i with
  | .ok store => (.ok (), { w with store })
  | .error e => (.error e, w)

/-- Creates incidents until one cannot be created. -/
def createAll (w : World) : List Incident → Except StoreError Unit × World
  | [] => (.ok (), w)
  | i :: rest =>
    match w.create i with
    | (.ok (), w) => w.createAll rest
    | (.error e, w) => (.error e, w)

/-- The instant of a step that may name one. -/
def now (w : World) (named : Option Instant) : Instant :=
  named.getD w.present

/-- Forgets what was observed. -/
def clear (w : World) : World :=
  { w with observed := {} }

end World

end IncidentWatch.Simulation

import IncidentWatch.Cluster.Object
import IncidentWatch.Log
import IncidentWatch.Owner.Basic
import IncidentWatch.Text.Quoted

/-!
# Looking things up in the cluster

The cluster answers requests for objects by their paths. A lookup makes the
requests it needs, one after the other, and ends at the first that fails.

The owner of a pod is found along its controllers: a replica set stands for the
deployment that controls it, and a job for itself; any other controller is known
only by its name, and then the pod's own metadata tell the release.
-/

set_option autoImplicit false

namespace IncidentWatch

/-- The answers of a cluster: the text at a path, unless the request fails. -/
abbrev ApiServer := String → Option String

/-- What a lookup asked, logged and found. -/
structure Lookup (α : Type) where
  requests : List String
  logs : List LogEntry
  result : Except String α

namespace Lookup

variable {α β : Type}

/-- Finds a value without asking. -/
def found (a : α) : Lookup α := ⟨[], [], .ok a⟩

/-- Ends without a value. -/
def failed (text : String) : Lookup α := ⟨[], [], .error text⟩

/-- Goes on with what was found. -/
def andThen (l : Lookup α) (next : α → Lookup β) : Lookup β :=
  match l.result with
  | .error text => ⟨l.requests, l.logs, .error text⟩
  | .ok a =>
    let rest := next a
    ⟨l.requests ++ rest.requests, l.logs ++ rest.logs, rest.result⟩

instance : Monad Lookup where
  pure := found
  bind := andThen

/-- Logs an entry. -/
def log (entry : LogEntry) : Lookup Unit := ⟨[], [entry], .ok ()⟩

@[simp] theorem result_pure (a : α) : (pure a : Lookup α).result = .ok a := rfl

@[simp] theorem result_bind (l : Lookup α) (next : α → Lookup β) :
    (l >>= next).result = l.result.bind fun a => (next a).result := by
  show (l.andThen next).result = _
  unfold andThen
  cases l.result <;> rfl

@[simp] theorem result_log (entry : LogEntry) : (log entry).result = .ok () := rfl

end Lookup

namespace ApiServer

/-- A character that can stand in the path of a request. -/
def isPathChar (c : Char) : Bool :=
  let n := c.toNat
  n == 0x21 || n == 0x22 || (0x24 ≤ n && n ≤ 0x3b) || n == 0x3d || (0x40 ≤ n && n ≤ 0x5b)
    || n == 0x5d || n == 0x5f || (0x61 ≤ n && n ≤ 0x7e) || 0x7f ≤ n

/-- The path that a request is made to: what names a query or a part is cut off. -/
def path? (cs : List Char) : Option String :=
  let path := cs.takeWhile fun c => c ≠ '?' && c ≠ '#'
  if path.all isPathChar then some (String.ofList path) else none

/-- The object at a path. -/
def fetch {α : Type} (server : ApiServer) (path : String) (d : Decoder α) (failure : String) :
    Lookup α :=
  let answer : Except String α := do
    match (server path).map (Decode.text d) with
    | some (.ok a) => .ok a
    | _ => .error failure
  ⟨["GET " ++ path], [], answer⟩

/-- The object of a name; an empty name, or one that fits no path, is not asked for. -/
def get {α : Type} (server : ApiServer) (r : Resource) (namespaceName name : String)
    (d : Decoder α) : Lookup α :=
  let failure := "Failed to get " ++ r.word ++ " " ++ namespaceName ++ "/" ++ name
  if name = "" then .failed failure
  else match path? (r.path namespaceName ++ "/" ++ name).toList with
    | none => .failed failure
    | some path => server.fetch path d failure

/-- The version that a cluster says it has. -/
def gitVersion (server : ApiServer) : Lookup String :=
  server.fetch "/version" Decode.gitVersion "Failed to query API server version"

/-- The health of a deployment. -/
def rolloutHealth (server : ApiServer) (namespaceName name : String) :
    Lookup (Except Fault RolloutHealth) := do
  return (← server.get .deployment namespaceName name Deployment.decode).rollout.health

/-- The controller that a replica set stands for, with the metadata that tell the release. -/
def ownerOfReplicaSet (server : ApiServer) (namespaceName name : String) :
    Lookup (OwnerKind × Metadata) := do
  let set ← server.get .replicaSet namespaceName name Resource.replicaSet.decodeMetadata
  match set.controller? with
  | some owner =>
    if owner.kind = "Deployment" then
      let deployment ← server.get .deployment namespaceName owner.name Deployment.decode
      return (.deployment, deployment.metadata)
    else return (.replicaSet, set)
  | none => return (.replicaSet, set)

/-- The controller of a pod, with the metadata that tell the release. -/
def controllerOfPod (server : ApiServer) (namespaceName : String) (live : Metadata) :
    Lookup (OwnerKind × Metadata) := do
  match live.controller? with
  | none => return (.pod, live)
  | some owner =>
    if owner.kind = "ReplicaSet" then server.ownerOfReplicaSet namespaceName owner.name
    else if owner.kind = "Job" then
      return (.job, ← server.get .job namespaceName owner.name Resource.job.decodeMetadata)
    else return (.ofName owner.kind, { live with name := some owner.name })

/-- A kind as the log shows it. -/
def inspectKind : OwnerKind → String
  | .deployment => "Deployment"
  | .job => "Job"
  | .replicaSet => "ReplicaSet"
  | .statefulSet => "StatefulSet"
  | .daemonSet => "DaemonSet"
  | .pod => "Pod"
  | .other name => "Other(" ++ Text.quoted name ++ ")"

/-- The revision that a hint names, if it is positive, or else the metadata's. -/
def revisionOf (hint : Option OwnerHint) (m : Metadata) : Int64 :=
  ((hint.map (·.helmRevision)).filter (0 < ·)).or m.revision? |>.getD 0

/-- The owner of a pod. -/
def resolveOwner (server : ApiServer) (pod : PodRef) : Lookup OwnerRef := do
  let live ← server.get .pod pod.namespaceName pod.name Resource.pod.decodeMetadata
  let (kind, metadata) ← server.controllerOfPod pod.namespaceName live
  let name := metadata.name.getD pod.name
  let owner : OwnerRef :=
    { kind, name, namespaceName := pod.namespaceName, chartName := metadata.chartName,
      releaseName := metadata.releaseName name, helmRevision := revisionOf pod.owner metadata }
  Lookup.log (.debug "Resolved pod owner"
    [("pod", .str pod.name), ("namespace", .str pod.namespaceName),
      ("owner_kind", .str (inspectKind kind)), ("owner", .str name),
      ("release", .str owner.releaseName)])
  return owner

end ApiServer

end IncidentWatch

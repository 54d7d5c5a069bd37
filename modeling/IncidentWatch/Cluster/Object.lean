import IncidentWatch.Cluster.Rollout
import IncidentWatch.Json.Decode

/-!
# Objects of the cluster

The cluster describes its objects in JSON. Every object is a map; a null member
is as good as none, of a repeated member the last counts, and members that the
object does not have are passed over. What is known of an object must be of the
right type, whether it is used or not.
-/

set_option autoImplicit false

namespace IncidentWatch

open Decode

/-- The members of a map. -/
def Decode.members : Decoder (List (Json × Json))
  | .obj members => .ok members
  | j => .error (mismatch "a map" j)

/-- The value of an property, if there is one; each of its occurrences must be of the type. -/
def Decode.property {α : Type} (d : Decoder α) (name : String) (members : List (Json × Json)) :
    Except DecodeError (Option α) :=
  members.foldlM (fun last (key, value) =>
    match key with
    | .str s => if s = name then option d value else return last
    | _ => .error .malformed) none

/-- Properties of one type that nobody reads. -/
def Decode.checkAll {α : Type} (d : Decoder α) (names : List String)
    (members : List (Json × Json)) : Except DecodeError Unit :=
  names.forM fun name => do
    discard <| property d name members

/-- A text that has to be a given one. -/
def Decode.exactly (expected : String) : Decoder Unit := fun j => do
  if (← string j) = expected then return ()
  else .error (.wrongType (foundName j) expected)

/-- A map of whatever members. -/
def Decode.anyMap : Decoder Unit := fun j => do
  discard <| members j
  skip j

/-- An owner that an object names. -/
structure OwnerMention where
  kind : String
  name : String
  isController : Bool
  deriving DecidableEq, Repr

def OwnerMention.decode : Decoder OwnerMention := fun j => do
  skip j
  let m ← members j
  checkAll string ["apiVersion", "uid"] m
  checkAll bool ["blockOwnerDeletion"] m
  let kind ← property string "kind" m
  let name ← property string "name" m
  let controller ← property bool "controller" m
  return ⟨kind.getD "", name.getD "", controller.getD false⟩

/-- What an object says of itself. -/
structure Metadata where
  name : Option String := none
  labels : ByName String := .empty
  annotations : ByName String := .empty
  owners : List OwnerMention := []

namespace Metadata

def decode : Decoder Metadata := fun j => do
  skip j
  let m ← members j
  checkAll string ["generateName", "namespace", "resourceVersion", "selfLink", "uid"] m
  checkAll int64 ["generation", "deletionGracePeriodSeconds"] m
  checkAll instant ["creationTimestamp", "deletionTimestamp"] m
  checkAll (list string) ["finalizers"] m
  checkAll (list anyMap) ["managedFields"] m
  let name ← property string "name" m
  let labels ← property (byName string) "labels" m
  let annotations ← property (byName string) "annotations" m
  let owners ← property (list OwnerMention.decode) "ownerReferences" m
  return ⟨name, labels.getD .empty, annotations.getD .empty, owners.getD []⟩

/-- The owner marked as the controller, or else the first one named. -/
def controller? (m : Metadata) : Option OwnerMention :=
  (m.owners.find? (·.isController)).or m.owners.head?

/-- The release that an object was installed with, or a name to stand for it. -/
def releaseName (m : Metadata) (fallback : String) : String :=
  ((m.annotations.get? "meta.helm.sh/release-name").or
    (m.labels.get? "app.kubernetes.io/instance")).getD fallback

/-- The chart that an object was installed from, or no name. -/
def chartName (m : Metadata) : String :=
  (m.labels.get? "helm.sh/chart").getD ""

/-- The revision of the release that an object says it belongs to. -/
def revision? (m : Metadata) : Option Int64 := do
  let written ← m.annotations.get? "helm.sh/revision"
  (Text.signed? Text.int64Max written.toList).map Int64.ofInt

end Metadata

/-- The kinds of object that are asked for, with the version of their interface. -/
inductive Resource where
  | pod
  | replicaSet
  | deployment
  | job
  deriving DecidableEq, Repr

namespace Resource

def apiVersion : Resource → String
  | .pod => "v1"
  | .replicaSet => "apps/v1"
  | .deployment => "apps/v1"
  | .job => "batch/v1"

def kind : Resource → String
  | .pod => "Pod"
  | .replicaSet => "ReplicaSet"
  | .deployment => "Deployment"
  | .job => "Job"

/-- The kind as messages name it. -/
def word : Resource → String
  | .pod => "pod"
  | .replicaSet => "replicaset"
  | .deployment => "deployment"
  | .job => "job"

/-- The place of the objects of a kind in a namespace. -/
def path (r : Resource) (namespaceName : String) : String :=
  (match r with
    | .pod => "/api/v1"
    | r => "/apis/" ++ r.apiVersion)
    ++ "/namespaces/" ++ namespaceName ++ "/" ++ r.word ++ "s"

/-- The members of an object of a kind; a version or kind, if given, must be the right one. -/
def decodeMembers (r : Resource) : Decoder (List (Json × Json)) := fun j => do
  skip j
  let m ← members j
  checkAll (exactly r.apiVersion) ["apiVersion"] m
  checkAll (exactly r.kind) ["kind"] m
  return m

/-- What an object of a kind says of itself. -/
def decodeMetadata (r : Resource) : Decoder Metadata := fun j => do
  let m ← r.decodeMembers j
  if r ≠ .deployment then checkAll anyMap ["spec", "status"] m
  return (← property Metadata.decode "metadata" m).getD {}

end Resource

def Quota.decode : Decoder Quota
  | .str s => .ok (.text s)
  | j => (int32 j).map .count

def Strategy.decode : Decoder Strategy := fun j => do
  let m ← members j
  let type ← property string "type" m
  let rolling ← property members "rollingUpdate" m
  let quota ← match rolling with
    | none => pure none
    | some rolling => do
      checkAll Quota.decode ["maxSurge"] rolling
      property Quota.decode "maxUnavailable" rolling
  return ⟨type, quota⟩

/-- A deployment as the cluster describes it. -/
structure Deployment where
  metadata : Metadata
  rollout : Rollout

namespace Deployment

/-- The replicas that are wanted and how they are replaced. -/
def decodeSpec : Decoder (Option Int32 × Option Strategy) := fun j => do
  let m ← members j
  checkAll int32 ["minReadySeconds", "progressDeadlineSeconds", "revisionHistoryLimit"] m
  checkAll bool ["paused"] m
  checkAll anyMap ["selector", "template"] m
  return (← property int32 "replicas" m, ← property Strategy.decode "strategy" m)

/-- The replicas that are ready. -/
def decodeStatus : Decoder (Option Int32) := fun j => do
  let m ← members j
  checkAll int32 ["availableReplicas", "collisionCount", "replicas", "terminatingReplicas",
    "unavailableReplicas", "updatedReplicas"] m
  checkAll int64 ["observedGeneration"] m
  checkAll (list anyMap) ["conditions"] m
  property int32 "readyReplicas" m

def decode : Decoder Deployment := fun j => do
  let m ← Resource.deployment.decodeMembers j
  let metadata ← property Metadata.decode "metadata" m
  let spec ← property decodeSpec "spec" m
  let status ← property decodeStatus "status" m
  let (replicas, strategy) := spec.getD (none, none)
  return ⟨metadata.getD {}, ⟨replicas, strategy, status.getD none⟩⟩

end Deployment

/-- The version that a cluster says it has, or no text. -/
def Decode.gitVersion : Decoder String := fun j => do
  skip j
  let m ← members j
  checkAll string ["buildDate", "compiler", "gitCommit", "gitTreeState", "goVersion", "major",
    "minor", "platform"] m
  return (← property string "gitVersion" m).getD ""

end IncidentWatch

/-!
# Workloads and their owners

A pod belongs to a controller, its owner, which carries the release that it was
installed with. An incident is scoped to an object of one of three kinds: only
deployments and jobs are scoped to as such, every other owner stands for a pod.
-/

set_option autoImplicit false

namespace IncidentWatch

/-- The kinds of object an incident can be scoped to. -/
inductive ObjectKind where
  | deployment
  | job
  | pod
  deriving DecidableEq, Repr

/-- The name of a kind. -/
def ObjectKind.name : ObjectKind → String
  | .deployment => "Deployment"
  | .job => "Job"
  | .pod => "Pod"

/-- The kinds of controller that own pods, as the cluster names them. -/
inductive OwnerKind where
  | deployment
  | job
  | replicaSet
  | statefulSet
  | daemonSet
  | pod
  | other (name : String)
  deriving DecidableEq, Repr

namespace OwnerKind

/-- The kinds with a name of their own. -/
def named : List (String × OwnerKind) :=
  [("Deployment", .deployment), ("Job", .job), ("ReplicaSet", .replicaSet),
    ("StatefulSet", .statefulSet), ("DaemonSet", .daemonSet), ("Pod", .pod)]

/-- The kind of a name. -/
def ofName (name : String) : OwnerKind :=
  (named.lookup name).getD (.other name)

/-- The name of a kind in the cluster. -/
def name : OwnerKind → String
  | .deployment => "Deployment"
  | .job => "Job"
  | .replicaSet => "ReplicaSet"
  | .statefulSet => "StatefulSet"
  | .daemonSet => "DaemonSet"
  | .pod => "Pod"
  | .other name => name

/-- The kind of the scope that an owner stands for. -/
def objectKind : OwnerKind → ObjectKind
  | .deployment => .deployment
  | .job => .job
  | _ => .pod

/-- A listed kind has the name that it is listed under. -/
theorem name_of_named {s : String} {kind : OwnerKind} (h : (s, kind) ∈ named) : kind.name = s := by
  simp only [named, List.mem_cons, Prod.mk.injEq, List.not_mem_nil, or_false] at h
  rcases h with ⟨rfl, rfl⟩ | ⟨rfl, rfl⟩ | ⟨rfl, rfl⟩ | ⟨rfl, rfl⟩ | ⟨rfl, rfl⟩ | ⟨rfl, rfl⟩ <;> rfl

/-- The kind of a name has that name. -/
theorem name_ofName (s : String) : (ofName s).name = s := by
  unfold ofName
  cases h : named.lookup s with
  | none => rfl
  | some kind =>
    obtain ⟨before, after, split, _⟩ := List.lookup_eq_some_iff.mp h
    exact name_of_named (split ▸ List.mem_append_right before List.mem_cons_self)

end OwnerKind

/-- The object that an incident is scoped to. -/
structure InvolvedObject where
  kind : ObjectKind
  name : String
  namespaceName : String
  deriving DecidableEq, Repr

/-- What an event says of the owner of its pod. -/
structure OwnerHint where
  kind : String
  name : String
  namespaceName : String
  helmRevision : Int64
  deriving DecidableEq, Repr

/-- A pod whose owner is asked for. -/
structure PodRef where
  name : String
  namespaceName : String
  owner : Option OwnerHint
  deriving DecidableEq, Repr

/-- The owner of a pod and the release it was installed with. -/
structure OwnerRef where
  kind : OwnerKind
  name : String
  namespaceName : String
  chartName : String
  releaseName : String
  helmRevision : Int64
  deriving DecidableEq, Repr

/-- The scope that an owner stands for. -/
def OwnerRef.involvedObject (owner : OwnerRef) : InvolvedObject :=
  ⟨owner.kind.objectKind, owner.name, owner.namespaceName⟩

end IncidentWatch

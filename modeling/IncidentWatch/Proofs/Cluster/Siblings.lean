import Mathlib.Data.List.Basic
import IncidentWatch.Cluster.Lookup
import IncidentWatch.Engine.Candidate
import IncidentWatch.Proofs.Json.Reading

/-!
# Pods of one deployment

The owner of a pod that a deployment runs is told by the deployment alone: the pod and its replica
set only lead there, and neither their labels nor their annotations are read
(`result_resolveOwner_of_runsFor`). Only the name of a deployment that does not tell its own is
taken from the pod, and the revision from a hint that comes with the pod. So the pods of one
deployment have one owner, whatever replica sets they belong to, and what goes wrong with them is
filed under one release (`siblings_share_their_owner`).
-/

set_option autoImplicit false

namespace IncidentWatch

/-- The controller of an object: the first owner that is marked as such, or, if none is, the first
one of all. -/
inductive Metadata.Controls (m : Metadata) (owner : OwnerMention) : Prop where
  | marked (before after : List OwnerMention) (owners : m.owners = before ++ owner :: after)
      (unmarked : ∀ other ∈ before, other.isController = false) (mark : owner.isController = true)
  | first (rest : List OwnerMention) (owners : m.owners = owner :: rest)
      (unmarked : ∀ other ∈ m.owners, other.isController = false)

theorem Metadata.controller?_eq_some_iff {m : Metadata} {owner : OwnerMention} :
    m.controller? = some owner ↔ m.Controls owner := by
  unfold controller?
  cases found : m.owners.find? (·.isController) with
  | some marked =>
      obtain ⟨mark, before, after, owners, unmarked⟩ := List.find?_eq_some_iff_append.1 found
      constructor
      · rintro ⟨⟩
        exact .marked before after owners (by simpa using unmarked) mark
      · rintro (⟨before', after', owners', unmarked', mark'⟩ | ⟨rest, owners', unmarked'⟩)
        · have found' : m.owners.find? (·.isController) = some owner :=
            List.find?_eq_some_iff_append.2
              ⟨mark', before', after', owners', by simpa using unmarked'⟩
          rw [← found, found']
          rfl
        · have member : marked ∈ m.owners := List.mem_of_find?_eq_some found
          exact absurd mark (by simp [unmarked' marked member])
  | none =>
      have unmarked : ∀ other ∈ m.owners, other.isController = false := by simpa using found
      rw [Option.none_or, List.head?_eq_some_iff]
      constructor
      · rintro ⟨rest, owners⟩
        exact .first rest owners unmarked
      · rintro (⟨before, after, owners, -, mark⟩ | ⟨rest, owners, -⟩)
        · have member : owner ∈ m.owners := by simp [owners]
          exact absurd mark (by simp [unmarked owner member])
        · exact ⟨rest, owners⟩

/-- What is filed under a release of its owner's is not filed under anything else. -/
theorem Candidate.releaseKey_build {owner : OwnerRef} (released : owner.releaseName ≠ "")
    (id : String) (ids : List String) (classified : List ClassifiedEvent) (scope : InvolvedObject)
    (now : Instant) : (build id ids classified owner scope now).releaseKey =
      ⟨owner.releaseName, owner.namespaceName⟩ := by
  simp [build, Incident.releaseKey, releaseName, released]

/-- The revision that the hint of a pod names, if it is positive. -/
def PodRef.hintedRevision (pod : PodRef) : Option Int64 :=
  (pod.owner.map (·.helmRevision)).filter (0 < ·)

namespace ApiServer

variable {server server' : ApiServer} {pod pod' : PodRef} {deployment : String} {owner : OwnerRef}

/-- The deployment of a name, as the server describes it. -/
def deployed (server : ApiServer) (namespaceName name : String) : Except String Deployment :=
  (server.get .deployment namespaceName name Deployment.decode).result

/-- A deployment runs a pod: the pod's controller is a replica set, and the deployment is the
controller of that. -/
inductive RunsFor (server : ApiServer) (pod : PodRef) (deployment : String) : Prop where
  | intro {live set : Metadata} {setMention mention : OwnerMention}
      (livePod : (server.get .pod pod.namespaceName pod.name
        Resource.pod.decodeMetadata).result = .ok live)
      (controlsPod : live.Controls setMention) (isSet : setMention.kind = "ReplicaSet")
      (liveSet : (server.get .replicaSet pod.namespaceName setMention.name
        Resource.replicaSet.decodeMetadata).result = .ok set)
      (controlsSet : set.Controls mention) (isDeployment : mention.kind = "Deployment")
      (named : mention.name = deployment)

/-- The owner that a deployment is to a pod. -/
def deploymentOwner (pod : PodRef) (m : Metadata) : OwnerRef where
  kind := .deployment
  name := m.name.getD pod.name
  namespaceName := pod.namespaceName
  chartName := m.chartName
  releaseName := m.releaseName (m.name.getD pod.name)
  helmRevision := pod.hintedRevision.getD (m.revision?.getD 0)

theorem revisionOf_eq (pod : PodRef) (m : Metadata) :
    revisionOf pod.owner m = pod.hintedRevision.getD (m.revision?.getD 0) := by
  unfold revisionOf PodRef.hintedRevision
  cases (pod.owner.map (·.helmRevision)).filter (0 < ·) <;> rfl

theorem result_ownerOfReplicaSet {namespaceName name : String} {set : Metadata}
    {mention : OwnerMention}
    (liveSet : (server.get .replicaSet namespaceName name
      Resource.replicaSet.decodeMetadata).result = .ok set)
    (controls : set.Controls mention) (isDeployment : mention.kind = "Deployment") :
    (server.ownerOfReplicaSet namespaceName name).result =
      (server.deployed namespaceName mention.name).map fun d => (.deployment, d.metadata) := by
  rw [ownerOfReplicaSet, Lookup.result_bind, liveSet]
  simp only [Except.bind, Metadata.controller?_eq_some_iff.2 controls, isDeployment, if_true,
    Lookup.result_bind, Lookup.result_pure, deployed]
  cases (server.get .deployment namespaceName mention.name Deployment.decode).result <;> rfl

/-- The owner of a pod that a deployment runs is told by the deployment. -/
theorem result_resolveOwner_of_runsFor (runs : server.RunsFor pod deployment) :
    (server.resolveOwner pod).result =
      (server.deployed pod.namespaceName deployment).map
        fun d => deploymentOwner pod d.metadata := by
  obtain ⟨livePod, controlsPod, isSet, liveSet, controlsSet, isDeployment, rfl⟩ := runs
  -- The answers on the way there are known; what remains is one request, for the deployment.
  rw [resolveOwner, Lookup.result_bind, livePod]
  simp only [Except.bind, controllerOfPod, Metadata.controller?_eq_some_iff.2 controlsPod, isSet,
    if_true, Lookup.result_bind, Lookup.result_pure, Lookup.result_log,
    result_ownerOfReplicaSet liveSet controlsSet isDeployment, revisionOf_eq]
  cases server.deployed pod.namespaceName _ <;> rfl

/-- Two pods of a namespace that one deployment runs have one owner, apart from the revision, which
is that of the pod's hint or else the deployment's. The two may be described by different servers
that agree on the deployment alone, so nothing that the pods or their replica sets say of themselves
counts. If the owner tells a release, the candidates of both are filed under it. -/
theorem siblings_share_their_owner (neighbours : pod'.namespaceName = pod.namespaceName)
    (runs : server.RunsFor pod deployment) (runs' : server'.RunsFor pod' deployment)
    (agree : server'.deployed pod.namespaceName deployment =
      server.deployed pod.namespaceName deployment)
    (named : ∀ d, server.deployed pod.namespaceName deployment = .ok d →
      d.metadata.name.isSome = true)
    (resolved : (server.resolveOwner pod).result = .ok owner) :
    ∃ d owner', server.deployed pod.namespaceName deployment = .ok d ∧
      (server'.resolveOwner pod').result = .ok owner' ∧
      owner' = { owner with helmRevision := owner'.helmRevision } ∧
      owner.helmRevision = pod.hintedRevision.getD (d.metadata.revision?.getD 0) ∧
      owner'.helmRevision = pod'.hintedRevision.getD (d.metadata.revision?.getD 0) ∧
      (owner.releaseName ≠ "" → ∀ id id' ids ids' classified classified' scope scope' now now',
        (Candidate.build id ids classified owner scope now).releaseKey =
          (Candidate.build id' ids' classified' owner' scope' now').releaseKey) := by
  rw [result_resolveOwner_of_runsFor runs] at resolved
  cases described : server.deployed pod.namespaceName deployment with
  | error text => simp [described, Except.map] at resolved
  | ok d =>
      obtain ⟨name, told⟩ := Option.isSome_iff_exists.1 (named d described)
      rw [described] at resolved
      obtain rfl : deploymentOwner pod d.metadata = owner := Except.ok.inj resolved
      -- The name is not taken from either pod, since the deployment tells its own.
      have same : deploymentOwner pod' d.metadata = { deploymentOwner pod d.metadata with
          helmRevision := (deploymentOwner pod' d.metadata).helmRevision } := by
        simp only [deploymentOwner, told, neighbours, Option.getD_some]
      refine ⟨d, deploymentOwner pod' d.metadata, rfl, ?_, same, rfl, rfl, fun released => ?_⟩
      · rw [result_resolveOwner_of_runsFor runs', neighbours, agree, described]
        rfl
      · intro id id' ids ids' classified classified' scope scope' now now'
        have released' : (deploymentOwner pod' d.metadata).releaseName ≠ "" := by
          rwa [same]
        rw [Candidate.releaseKey_build released, Candidate.releaseKey_build released', same]

/-- What a server answers to a request for an object is decoded. -/
theorem result_get_of_render {α : Type} {r : Resource} {namespaceName name : String}
    {j : Json} {d : Decoder α} {a : α} (path : String) (asked : name ≠ "")
    (onPath : path? (r.path namespaceName ++ "/" ++ name).toList = some path)
    (answered : server path = some j.render) (back : j.ReadsBack) (decoded : d j = .ok a) :
    (server.get r namespaceName name d).result = .ok a := by
  rw [get, if_neg asked, onPath]
  simp only [fetch, answered, Option.map_some, Decode.text_render d back, decoded]

/-- An object with an owner and a chart, as a server describes it. -/
def sampleObject (chart ownerKind owner : String) : Json :=
  .object [("metadata", .object [("labels", .object [("helm.sh/chart", .str chart)]),
    ("ownerReferences", .arr [.object [("kind", .str ownerKind), ("name", .str owner)]])])]

theorem sampleObject_readsBack (chart ownerKind owner : String) :
    (sampleObject chart ownerKind owner).ReadsBack := by
  have mention : (Json.object [("kind", .str ownerKind), ("name", .str owner)]).ReadsBack :=
    .object (by simp [Json.ReadsBack.str])
  have labels : (Json.object [("helm.sh/chart", .str chart)]).ReadsBack :=
    .object (by simp [Json.ReadsBack.str])
  exact .object (by simpa using .object (by simpa using ⟨labels, .arr (by simpa using mention)⟩))

theorem decodeMetadata_sampleObject (r : Resource) (chart ownerKind owner : String) :
    ∃ m, r.decodeMetadata (sampleObject chart ownerKind owner) = .ok m ∧
      m.Controls ⟨ownerKind, owner, false⟩ := by
  refine ⟨{ labels := ByName.empty.insert "helm.sh/chart" chart,
            owners := [⟨ownerKind, owner, false⟩] }, by cases r <;> rfl, ?_⟩
  exact .first [] rfl (by simp)

theorem runsFor_of_sampleObject {set deployment chart : String} (onPath onSetPath : String)
    (askedPod : pod.name ≠ "") (askedSet : set ≠ "")
    (podPath : path? (Resource.pod.path pod.namespaceName ++ "/" ++ pod.name).toList = some onPath)
    (setPath : path? (Resource.replicaSet.path pod.namespaceName ++ "/" ++ set).toList =
      some onSetPath)
    (answered : server onPath = some (sampleObject chart "ReplicaSet" set).render)
    (answeredSet : server onSetPath = some (sampleObject chart "Deployment" deployment).render) :
    server.RunsFor pod deployment := by
  obtain ⟨live, livePod, controlsPod⟩ := decodeMetadata_sampleObject .pod chart "ReplicaSet" set
  obtain ⟨owning, liveSet, controlsSet⟩ :=
    decodeMetadata_sampleObject .replicaSet chart "Deployment" deployment
  have back : ∀ kind owner, (sampleObject chart kind owner).ReadsBack :=
    sampleObject_readsBack chart
  exact .intro (result_get_of_render onPath askedPod podPath answered (back ..) livePod)
    controlsPod rfl
    (result_get_of_render onSetPath askedSet setPath answeredSet (back ..) liveSet)
    controlsSet rfl rfl

/-- The deployment that the objects belong to. -/
def sampleDeployment : Json :=
  .object [("metadata", .object [("name", .str "web"),
    ("annotations", .object [("helm.sh/revision", .str "3")])])]

theorem sampleDeployment_readsBack : sampleDeployment.ReadsBack := by
  have annotations : (Json.object [("helm.sh/revision", .str "3")]).ReadsBack :=
    .object (by simp [Json.ReadsBack.str])
  exact .object (by simpa using .object (by simpa using ⟨.str "web", annotations⟩))

/-- A deployment in the middle of a rollout: a pod of the old replica set and one of the new, which
have charts of their own. -/
def sampleServer : ApiServer := fun path => (List.lookup path
  [("/api/v1/namespaces/default/pods/web-0", sampleObject "old" "ReplicaSet" "web-a"),
    ("/api/v1/namespaces/default/pods/web-1", sampleObject "new" "ReplicaSet" "web-b"),
    ("/apis/apps/v1/namespaces/default/replicasets/web-a", sampleObject "old" "Deployment" "web"),
    ("/apis/apps/v1/namespaces/default/replicasets/web-b", sampleObject "new" "Deployment" "web"),
    ("/apis/apps/v1/namespaces/default/deployments/web", sampleDeployment)]).map (·.render)

/-- The pod of the old replica set, and that of the new, which comes with a hint. -/
def oldPod : PodRef := ⟨"web-0", "default", none⟩

@[inherit_doc oldPod]
def newPod : PodRef := ⟨"web-1", "default", some ⟨"ReplicaSet", "web-b", "default", 7⟩⟩

/-- Both pods belong to the deployment, which has no chart; the hint tells the newer revision. -/
theorem siblings_share_their_owner_during_rollout :
    sampleServer.RunsFor oldPod "web" ∧ sampleServer.RunsFor newPod "web" ∧
      (sampleServer.resolveOwner oldPod).result =
        .ok ⟨.deployment, "web", "default", "", "web", 3⟩ ∧
      (sampleServer.resolveOwner newPod).result =
        .ok ⟨.deployment, "web", "default", "", "web", 7⟩ := by
  have runs : sampleServer.RunsFor oldPod "web" :=
    runsFor_of_sampleObject "/api/v1/namespaces/default/pods/web-0"
      "/apis/apps/v1/namespaces/default/replicasets/web-a" (by decide) (by decide)
      (by decide +kernel) (by decide +kernel) rfl rfl
  have runs' : sampleServer.RunsFor newPod "web" :=
    runsFor_of_sampleObject "/api/v1/namespaces/default/pods/web-1"
      "/apis/apps/v1/namespaces/default/replicasets/web-b" (by decide) (by decide)
      (by decide +kernel) (by decide +kernel) rfl rfl
  have described : sampleServer.deployed "default" "web" = .ok ⟨⟨some "web", .empty,
      ByName.empty.insert "helm.sh/revision" "3", []⟩, ⟨none, none, none⟩⟩ :=
    result_get_of_render "/apis/apps/v1/namespaces/default/deployments/web" (by decide)
      (by decide +kernel) rfl sampleDeployment_readsBack rfl
  have resolved : (sampleServer.resolveOwner oldPod).result =
      .ok ⟨.deployment, "web", "default", "", "web", 3⟩ := by
    refine (result_resolveOwner_of_runsFor runs).trans ?_
    rw [show oldPod.namespaceName = "default" from rfl, described]
    decide +kernel
  have neighbours : newPod.namespaceName = oldPod.namespaceName := rfl
  have named : ∀ d, sampleServer.deployed "default" "web" = .ok d →
      d.metadata.name.isSome = true := by
    rw [described]
    rintro d ⟨⟩
    rfl
  obtain ⟨d, owner', -, resolved', same, -, revision, -⟩ :=
    siblings_share_their_owner neighbours runs runs' rfl named resolved
  refine ⟨runs, runs', resolved, ?_⟩
  rw [resolved', same, revision]
  rfl

end ApiServer

end IncidentWatch

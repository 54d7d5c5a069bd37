import IncidentWatch.Proofs.Course.Observer

/-!
# What a batch is told

Two of the answers that a batch gets bear on the incident that it saves: the owner of its
pods, and the health of the rollout if that is a deployment. They make up its brief
(`brief`).

A batch creates only a candidate that is scoped as its brief tells, and merges only such a
candidate into an incident, for the owner of the brief (`Engine.SavesOnly`,
`heeds_operation`).
-/

set_option autoImplicit false

namespace IncidentWatch

/-- What a batch was told of the owner of its pods. -/
structure Brief where
  owner : Option OwnerRef := none
  /-- The health of the owner's rollout, if it was asked for and answered. -/
  rollout : Option RolloutHealth := none

def Brief.next (told : Brief) : (r : Request) → r.Answer → Brief
  | .owner _ _, .ok owner => ⟨some owner, none⟩
  | .rollout namespaceName name _, .ok health =>
    if told.owner.any fun owner => owner.namespaceName = namespaceName ∧ owner.name = name then
      { told with rollout := some health }
    else told
  | _, _ => told

/-- Keeps the brief of a batch. -/
def brief : Observer Brief :=
  ⟨{}, Brief.next⟩

/-- A batch of which an incident is saved, with what it was told. -/
structure Saved where
  events : List Event
  now : Instant
  owner : OwnerRef
  rollout : Option RolloutHealth

namespace Saved

/-- Whether a new incident is scoped to the owner itself: it is if that is a job, or a deployment
that was said to be failing. -/
def takesScope (b : Saved) : Bool :=
  match b.owner.kind with
  | .job => true
  | .deployment => b.rollout.any fun health => health.isFailing = .ok true
  | _ => false

/-- The scope of a new incident, of which an event came first. -/
def scopeFor (b : Saved) (origin : Event) : InvolvedObject :=
  if b.takesScope then b.owner.involvedObject else ⟨.pod, origin.podName, origin.podNamespace⟩

end Saved

open Interleaving (Operation)

/-- The batch that an operation is, if it was told an owner. -/
def Brief.saved? (told : Brief) : Operation → Option Saved
  | .batch events now => told.owner.map fun owner => ⟨events, now, owner, told.rollout⟩
  | .sweep _ => none

namespace Engine

/-- A candidate of a batch, scoped as the batch was told. -/
structure Files (e : Engine) (b : Saved) (candidate : Incident) : Prop where
  isCandidate : e.IsCandidate b.now b.events b.owner candidate
  scope : ∃ first, (counting b.events).head? = some first ∧
    candidate.involvedObject = b.scopeFor first

/-- An incident with a candidate of a batch merged into it. -/
def Folds (e : Engine) (b : Saved) (merged : Incident) : Prop :=
  ∃ candidate, e.Files b candidate ∧
    ∃ target : Incident, merged = (target.merge candidate.events b.owner b.now).1

/-- What an operation may save: a batch only what it was told to. -/
def SavesOnly (e : Engine) : Operation → Brief → Request → Prop
  | .batch events now, told, .create i =>
    ∃ b, told.saved? (.batch events now) = some b ∧ e.Files b i
  | .batch events now, told, .update i =>
    ∃ b, told.saved? (.batch events now) = some b ∧ e.Folds b i
  | _, _, _ => True

variable {e : Engine} {now : Instant} {events : List Event} {owner : OwnerRef}

/-- The scope of a candidate is the one that its batch was told. -/
theorem heeds_scope (e : Engine) (now : Instant) (events : List Event) (owner : OwnerRef)
    (first : Event) :
    (e.scope owner first).Heeds brief (e.SavesOnly (.batch events now))
      (fun object told => ∃ rollout, told = ⟨some owner, rollout⟩ ∧
        object = Saved.scopeFor ⟨events, now, owner, rollout⟩ first)
      ⟨some owner, none⟩ := by
  unfold scope
  cases kind : owner.kind with
  | deployment =>
      refine ⟨trivial, fun answer => ?_⟩
      cases answer with
      | error error =>
          refine ⟨trivial, fun _ => ⟨none, rfl, ?_⟩⟩
          simp [Saved.scopeFor, Saved.takesScope, kind]
      | ok health =>
          have next : brief.next ⟨some owner, none⟩
              (.rollout owner.namespaceName owner.name e.settings.queryLimit) (.ok health) =
                ⟨some owner, some health⟩ := by
            simp [brief, Brief.next]
          show (Program.checked health.isFailing >>= _).Heeds _ _ _ _
          rw [next]
          refine Program.heeds_bind ?_
          cases failing : health.isFailing with
          | error fault => trivial
          | ok ill =>
              refine ⟨some health, rfl, ?_⟩
              simp [Saved.scopeFor, Saved.takesScope, kind, failing]
  | job => exact ⟨none, rfl, by simp [Saved.scopeFor, Saved.takesScope, kind]⟩
  | _ => exact ⟨none, rfl, by simp [Saved.scopeFor, Saved.takesScope, kind]⟩

/-- A candidate is made for the owner that its batch was told, and scoped as it was told. -/
theorem heeds_candidate {first : Event} {rest : List Event} {recognized : List ClassifiedEvent}
    (counts : counting events = first :: rest)
    (recognizes : e.classified (first :: rest) = recognized) (some' : recognized ≠ []) :
    (e.candidate recognized owner first now).Heeds brief (e.SavesOnly (.batch events now))
      (fun built told => ∃ rollout, told = ⟨some owner, rollout⟩ ∧
        e.Files ⟨events, now, owner, rollout⟩ built)
      ⟨some owner, none⟩ := by
  unfold candidate
  refine Program.heeds_bind ((heeds_scope e now events owner first).mono ?_)
  rintro object _ ⟨rollout, rfl, rfl⟩
  refine Program.heeds_ignored ⟨trivial, fun _ => rfl⟩ fun id => ?_
  have fresh : ∀ _ : ClassifiedEvent, (Program.request .freshId).Heeds brief
      (e.SavesOnly (.batch events now)) (fun _ told => told = ⟨some owner, rollout⟩)
      ⟨some owner, rollout⟩ := fun _ => ⟨trivial, fun _ => rfl⟩
  refine Program.heeds_bind ((Program.heeds_mapM fresh _).mono ?_)
  rintro ids _ ⟨enough, rfl⟩
  refine Program.heeds_ignored ⟨trivial, fun _ => rfl⟩ fun logged => ?_
  have isCandidate : e.IsCandidate now events owner (Candidate.build id ids recognized owner
      (Saved.scopeFor ⟨events, now, owner, rollout⟩ first) now) := by
    unfold IsCandidate
    rw [counts, recognizes]
    exact ⟨some', id, ids, _, enough, rfl⟩
  exact ⟨rollout, rfl, isCandidate, first, by rw [counts]; rfl, rfl⟩

/-- A candidate is saved as it is, or merged into an incident for its owner. -/
theorem heeds_save {node : String} {pageSize : UInt64} {b : Saved} {candidate : Incident}
    (files : e.Files b candidate) :
    Work.Heeds brief (e.SavesOnly (.batch b.events b.now)) (fun _ _ => True)
      (Saving.save node pageSize candidate b.owner b.now) ⟨some b.owner, b.rollout⟩ := by
  unfold Saving.save
  refine Work.heeds_underLock trivial (fun _ => trivial) ?_
  refine Work.heeds_bind ((Work.heeds_listFrom (· = ⟨some b.owner, b.rollout⟩)
    (fun _ _ => trivial) (fun _ _ same => same) _ rfl).mono ?_)
  rintro found _ rfl
  split
  · unfold Saving.create
    refine Work.heeds_bind ⟨⟨b, rfl, files⟩, fun answer => ?_⟩
    cases answer with
    | error error => trivial
    | ok stored => exact ⟨trivial, fun _ => ⟨trivial, fun _ => trivial⟩⟩
  · rename_i target present
    unfold Saving.mergeInto
    refine Work.heeds_ignored ⟨trivial, fun _ => rfl⟩ fun logged => ?_
    refine Work.heeds_bind ⟨⟨b, rfl, candidate, files, target, rfl⟩, fun answer => ?_⟩
    cases answer with
    | error error => trivial
    | ok stored => exact ⟨trivial, fun _ => ⟨trivial, fun _ => trivial⟩⟩

/-- A batch saves only what it was told to. -/
theorem heeds_handleBatch (e : Engine) (events : List Event) (now : Instant) :
    Work.Heeds brief (e.SavesOnly (.batch events now)) (fun _ _ => True)
      (e.handleBatch events now) {} := by
  have skips : ∀ reason event detail told, Work.Heeds brief (e.SavesOnly (.batch events now))
      (fun _ _ => True) (liftM (e.skip reason event detail)) told := by
    intro reason event detail told
    exact ⟨trivial, fun _ => ⟨trivial, fun _ => trivial⟩⟩
  unfold handleBatch
  refine Work.heeds_ignored ⟨trivial, fun _ => rfl⟩ fun received => ?_
  split
  · exact skips _ _ _ _
  · split
    · exact skips _ _ _ _
    · rename_i first rest counts
      refine Work.heeds_ask trivial fun answer => ?_
      cases answer with
      | error error => exact skips _ _ _ _
      | ok owner =>
          show Work.Heeds _ _ _ _ (Brief.mk (some owner) none)
          dsimp only
          split
          · exact skips _ _ _ _
          · rename_i recognizes
            refine Work.heeds_ignored ⟨trivial, fun _ => rfl⟩ fun classified => ?_
            refine Work.heeds_lift ((heeds_candidate counts rfl recognizes).mono ?_)
            rintro built _ ⟨rollout, rfl, files⟩
            exact Work.heeds_bind ((heeds_save files).mono fun _ _ _ => trivial)

/-- Operations save only what they were told to. -/
theorem heeds_operation (e : Engine) (op : Operation) :
    (op.program e).Heeds brief (e.SavesOnly op) (fun _ _ => True) brief.start := by
  cases op with
  | batch events now =>
      refine Program.heeds_bind (Program.Heeds.mono (heeds_handleBatch e events now) ?_)
      exact fun _ _ _ => trivial
  | sweep now => exact Program.heeds_of_free (fun _ _ => trivial) _ _

end Engine

end IncidentWatch

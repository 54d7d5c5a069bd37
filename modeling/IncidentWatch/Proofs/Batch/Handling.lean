import IncidentWatch.Proofs.Batch.Noise
import IncidentWatch.Proofs.Sequential.Redelivery

/-!
# How a batch is handled

Whatever the collaborators say, the conversation of a batch goes one of six ways
(`Handling`). Nothing in it counts; the owner of the first event that counts is not told; no
event is recognised; or a candidate is built, unless the health of the owner's deployment is
told in numbers that cannot be compared, and is saved under the lock of its release.

Each way says what the cluster was asked and how it answered, in that order
(`clusterCalls`), what was written (`storeWrites`), and that the store was otherwise left
alone. Saving goes one of three ways (`Stores`): the store has an error to tell, or the first
match in the store decides whether the candidate is created or merged.
-/

set_option autoImplicit false

namespace IncidentWatch

namespace Request

/-- Questions to the cluster. -/
def asksCluster : Request → Bool
  | .owner _ _ => true
  | .rollout _ _ _ => true
  | _ => false

/-- Requests to write to the store. -/
def asksToWrite : Request → Bool
  | .create _ => true
  | .update _ => true
  | _ => false

end Request

namespace Engine

variable {events : List Event}

theorem significant_isEmpty_iff :
    (significant events).isEmpty = true ↔ ∀ event ∈ events, event.severity = .low := by
  unfold significant
  rw [List.isEmpty_iff, List.filter_eq_nil_iff]
  simp [Event.isSignificant]

/-- The first event that counts is the first of those that do. -/
theorem find?_counts (events : List Event) :
    (events.find? fun event => event.Counts) = (counting events).head? := by
  rw [counting_eq_filter, List.head?_filter]

end Engine

namespace Sequential

open Interleaving

theorem counts_of_find? {events : List Event} {first : Event}
    (found : (events.find? fun event => event.Counts) = some first) :
    first ∈ events ∧ first.Counts := by
  have counts := List.find?_some found
  exact ⟨List.mem_of_find?_eq_some found, of_decide_eq_true counts⟩

/-! ## What a conversation shows -/

section Shown

variable {xs ys : List Exchange} {f : IncidentFilter}

/-- What the cluster was asked, with its answers. -/
def clusterCalls (xs : List Exchange) : List Exchange :=
  xs.filter (·.request.asksCluster)

/-- What the store was asked to write, with its answers. -/
def storeWrites (xs : List Exchange) : List Exchange :=
  xs.filter (·.request.asksToWrite)

/-- The store was asked for nothing. -/
def Apart (xs : List Exchange) : Prop :=
  ∀ x ∈ xs, ¬ x.request.AsksStore

theorem clusterCalls_append (xs ys : List Exchange) :
    clusterCalls (xs ++ ys) = clusterCalls xs ++ clusterCalls ys :=
  List.filter_append ..

theorem storeWrites_append (xs ys : List Exchange) :
    storeWrites (xs ++ ys) = storeWrites xs ++ storeWrites ys :=
  List.filter_append ..

theorem Apart.append (first : Apart xs) (rest : Apart ys) : Apart (xs ++ ys) :=
  List.forall_mem_append.2 ⟨first, rest⟩

theorem Apart.storeWrites (apart : Apart xs) : storeWrites xs = [] := by
  refine List.filter_eq_nil_iff.2 fun x member writes => apart x member ?_
  obtain ⟨r, a⟩ := x
  cases r <;> trivial

theorem Pages.clusterCalls (pages : Pages f xs) : clusterCalls xs = [] := by
  refine List.filter_eq_nil_iff.2 fun x member asks => ?_
  obtain ⟨p, listing⟩ := pages x member
  rw [listing] at asks
  cases asks

theorem Pages.storeWrites (pages : Pages f xs) : storeWrites xs = [] := by
  refine List.filter_eq_nil_iff.2 fun x member writes => ?_
  obtain ⟨p, listing⟩ := pages x member
  rw [listing] at writes
  cases writes

end Shown

variable {c : Nat → Collaborators} {e : Engine} {events : List Event} {now : Instant} {s : Store}
  {owner : OwnerRef} {candidate : Incident} {xs ys : List Exchange}

/-! ## Candidates -/

/-- The health of a deployment is asked for; that of another owner is not. -/
def healthCalls (e : Engine) (owner : OwnerRef) (answer : Except QueryError RolloutHealth) :
    List Exchange :=
  if owner.kind = .deployment then
    [⟨.rollout owner.namespaceName owner.name e.settings.queryLimit, answer⟩]
  else []

/-- The owner is a deployment, and its health was told in numbers that cannot be compared. -/
def Incomparable (owner : OwnerRef) (answer : Except QueryError RolloutHealth) : Prop :=
  owner.kind = .deployment ∧
    ∃ health fault, answer = .ok health ∧ health.isFailing = .error fault

/-- The cluster was asked for the health of the owner, and the store for nothing. -/
structure Consults (e : Engine) (owner : OwnerRef) (answer : Except QueryError RolloutHealth)
    (xs : List Exchange) : Prop where
  apart : Apart xs
  calls : clusterCalls xs = healthCalls e owner answer

/-- How finding a scope goes. -/
inductive FindsScope (e : Engine) (owner : OwnerRef) (s : Store) :
    Conversation InvolvedObject → Prop
  | faulty {xs : List Exchange} {answer : Except QueryError RolloutHealth}
      (consults : Consults e owner answer xs) (ill : Incomparable owner answer) :
      FindsScope e owner s ⟨xs, none, s⟩
  | found {xs : List Exchange} {answer : Except QueryError RolloutHealth} {object : InvolvedObject}
      (consults : Consults e owner answer xs) (well : ¬ Incomparable owner answer) :
      FindsScope e owner s ⟨xs, some object, s⟩

theorem leads_scope (e : Engine) (owner : OwnerRef) (origin : Event) :
    Leads c (e.scope owner origin) s (FindsScope e owner s) := by
  unfold Engine.scope
  cases kind : owner.kind with
  | deployment =>
      refine leads_aside nofun fun answer => ?_
      cases answer with
      | error error =>
          have well : ¬ Incomparable owner (.error error) := by
            rintro ⟨-, health, fault, same, -⟩
            cases same
          refine leads_aside nofun fun _ => leads_pure (.found ⟨?_, (if_pos kind).symm⟩ well)
          simp [Apart, Request.AsksStore]
      | ok health =>
          have consults : Consults e owner (.ok health)
              [⟨.rollout owner.namespaceName owner.name e.settings.queryLimit, .ok health⟩] :=
            ⟨by simp [Apart, Request.AsksStore], (if_pos kind).symm⟩
          dsimp only
          cases failing : health.isFailing with
          | error fault =>
              exact fun _ => FindsScope.faulty consults ⟨kind, health, fault, rfl, failing⟩
          | ok failing' =>
              refine leads_pure (FindsScope.found consults ?_)
              rintro ⟨-, health', fault, same, ill⟩
              cases same
              rw [failing] at ill
              cases ill
  | _ =>
      have other : owner.kind ≠ .deployment := by
        rw [kind]
        exact nofun
      have consults : Consults e owner (.error (.failed "")) [] :=
        ⟨List.forall_mem_nil _, (if_neg other).symm⟩
      exact leads_pure (.found consults fun ill => other ill.1)

/-- One id is given out for each of a list. -/
theorem leads_freshIds {α : Type} (items : List α) :
    Leads c (items.mapM fun _ => Program.request .freshId) s fun talk =>
      ∃ given xs, talk = ⟨xs, some given, s⟩ ∧ given.length = items.length ∧ Apart xs ∧
        clusterCalls xs = [] := by
  have idle : ¬ Request.freshId.AsksStore := not_false
  induction items with
  | nil => exact leads_pure ⟨[], [], rfl, rfl, List.forall_mem_nil _, rfl⟩
  | cons item rest inductionHypothesis =>
      rw [List.mapM_cons]
      refine leads_aside idle fun id => leads_bind inductionHypothesis ?_ ?_
      · rintro xs s' ⟨given, xs', talk, -⟩
        cases talk
      · rintro xs given s' ⟨_, _, talk, enough, apart, quiet⟩
        cases talk
        refine leads_pure ⟨id :: given, ⟨.freshId, id⟩ :: xs, ?_, ?_, ?_, quiet⟩
        · simp [Conversation.after]
        · rw [List.length_cons, enough, List.length_cons]
        · exact List.forall_mem_cons.2 ⟨idle, apart⟩

/-- How building a candidate goes. -/
inductive Builds (e : Engine) (recognized : List ClassifiedEvent) (owner : OwnerRef)
    (now : Instant) (s : Store) : Conversation Incident → Prop
  | faulty {xs : List Exchange} {answer : Except QueryError RolloutHealth}
      (consults : Consults e owner answer xs) (ill : Incomparable owner answer) :
      Builds e recognized owner now s ⟨xs, none, s⟩
  | built {xs : List Exchange} {answer : Except QueryError RolloutHealth} {id : String}
      {given : List String} {object : InvolvedObject} (consults : Consults e owner answer xs)
      (well : ¬ Incomparable owner answer) (enough : given.length = recognized.length)
      (fresh : ⟨.freshId, id⟩ ∈ xs) : Builds e recognized owner now s
        ⟨xs, some (Candidate.build id given recognized owner object now), s⟩

theorem leads_candidate (e : Engine) (recognized : List ClassifiedEvent) (owner : OwnerRef)
    (origin : Event) (now : Instant) :
    Leads c (e.candidate recognized owner origin now) s (Builds e recognized owner now s) := by
  unfold Engine.candidate
  refine leads_bind (leads_scope e owner origin) ?_ ?_
  · intro xs s' led
    cases led with
    | faulty consults ill => exact .faulty consults ill
  · intro xs object s' led
    cases led with
    | found consults well =>
        refine leads_aside nofun fun id => leads_bind (leads_freshIds recognized) ?_ ?_
        · rintro ys s' ⟨given, ys', talk, -⟩
          cases talk
        · rintro ys given s' ⟨_, _, talk, enough, apart, quiet⟩
          cases talk
          refine leads_aside nofun fun _ => leads_pure (.built ⟨?_, ?_⟩ well enough ?_)
          · exact consults.apart.append (List.forall_mem_cons.2
              ⟨nofun, apart.append (List.forall_mem_cons.2 ⟨nofun, List.forall_mem_nil _⟩)⟩)
          · simp only [Conversation.exchanges_after, clusterCalls_append, consults.calls, quiet]
            exact List.append_nil _
          · simp

/-! ## Saving -/

/-- How saving a candidate goes. -/
inductive Stores (c : Nat → Collaborators) (s : Store) (candidate : Incident) (owner : OwnerRef)
    (now : Instant) : Conversation (Except EngineError SaveOutcome) → Prop
  | refused {xs : List Exchange} {error : StoreError} (fails : ∃ x ∈ xs, x.failure? = some error)
      (cause : (∃ k, (c k).refusal = some error) ∨
        (s.incidents.find? fun i => Matches candidate i) = none ∧
          s.create candidate = .error error) :
      Stores c s candidate owner now ⟨xs, some (.error (.persistence error)), s⟩
  | created {xs : List Exchange} {s' : Store}
      (none' : (s.incidents.find? fun i => Matches candidate i) = none)
      (writes : storeWrites xs = [⟨.create candidate, .ok ()⟩])
      (created : s.create candidate = .ok s') :
      Stores c s candidate owner now ⟨xs, some (.ok (.created candidate.id)), s'⟩
  | merged {xs : List Exchange} {s' : Store} {target : Incident}
      (found : (s.incidents.find? fun i => Matches candidate i) = some target)
      (writes : storeWrites xs =
        [⟨.update (target.merge candidate.events owner now).1, .ok ()⟩])
      (updated : s.update (target.merge candidate.events owner now).1 = .ok s') :
      Stores c s candidate owner now ⟨xs, some (.ok (.merged target.id
        (target.merge candidate.events owner now).2)), s'⟩

/-- What else is asked has no part in how a candidate is stored. -/
theorem Stores.among {talk : Conversation (Except EngineError SaveOutcome)}
    (stores : Stores c s candidate owner now talk) (among : talk.exchanges ⊆ ys)
    (writes : storeWrites ys = storeWrites talk.exchanges) :
    Stores c s candidate owner now ⟨ys, talk.result, talk.store⟩ := by
  cases stores with
  | refused fails cause =>
      obtain ⟨x, member, failing⟩ := fails
      exact .refused ⟨x, among member, failing⟩ cause
  | created none' written created => exact .created none' (writes.trans written) created
  | merged found written updated => exact .merged found (writes.trans written) updated

theorem leads_create_candidate (node : String)
    (none' : (s.incidents.find? fun i => Matches candidate i) = none) :
    Leads c (Saving.create node candidate).run s fun talk =>
      Stores c s candidate owner now talk ∧ clusterCalls talk.exchanges = [] := by
  unfold Saving.create
  refine leads_create (fun error meets => ⟨.refused ⟨_, List.mem_singleton_self _, rfl⟩ ?_, rfl⟩) ?_
  · exact meets.imp_right fun refused => ⟨none', refused⟩
  · intro s' created
    refine leads_work_aside nofun fun _ => leads_work_aside nofun fun _ => leads_pure ?_
    exact ⟨.created none' rfl created, rfl⟩

theorem Stores.of_merge {target merged : Incident} {promoted : Bool} {s' : Store}
    (found : (s.incidents.find? fun i => Matches candidate i) = some target)
    (merges : target.merge candidate.events owner now = (merged, promoted))
    (writes : storeWrites xs = [⟨.update merged, .ok ()⟩]) (updated : s.update merged = .ok s') :
    Stores c s candidate owner now ⟨xs, some (.ok (.merged merged.id promoted)), s'⟩ := by
  obtain rfl : (target.merge candidate.events owner now).1 = merged := by rw [merges]
  obtain rfl : (target.merge candidate.events owner now).2 = promoted := by rw [merges]
  obtain ⟨scope, fields⟩ := target.merge_eq candidate.events owner now
  have same : (target.merge candidate.events owner now).1.id = target.id := by rw [fields]
  rw [same]
  exact .merged found writes updated

/-- A target is in the store, so that the store can only refuse to update it. -/
theorem leads_mergeInto (node : String) {target : Incident}
    (found : (s.incidents.find? fun i => Matches candidate i) = some target) :
    Leads c (Saving.mergeInto node target candidate owner now).run s fun talk =>
      Stores c s candidate owner now talk ∧ clusterCalls talk.exchanges = [] := by
  obtain ⟨scope, fields⟩ := target.merge_eq candidate.events owner now
  have same : (target.merge candidate.events owner now).1.id = target.id := by rw [fields]
  obtain ⟨s₁, there⟩ :=
    Store.exists_update (Store.get?_of_mem (List.mem_of_find?_eq_some found)) same
  unfold Saving.mergeInto
  cases merges : target.merge candidate.events owner now with
  | mk merged promoted =>
      rw [merges] at there
      refine leads_work_aside nofun fun _ => leads_update ?_ ?_
      · rintro error (refuses | absent)
        · exact ⟨.refused ⟨_, List.mem_append_right _ (List.mem_singleton_self _), rfl⟩
            (Or.inl refuses), rfl⟩
        · rw [there] at absent
          cases absent
      · intro s' updated
        refine leads_work_aside nofun fun _ => leads_work_aside nofun fun _ => leads_pure ?_
        exact ⟨.of_merge found merges rfl updated, rfl⟩

theorem leads_save (node : String) (pageSize : UInt64) (candidate : Incident) (owner : OwnerRef)
    (now : Instant) (room : s.size < UInt64.size) :
    Leads c (Saving.save node pageSize candidate owner now).run s fun talk =>
      Stores c s candidate owner now talk ∧ clusterCalls talk.exchanges = [] := by
  refine leads_underLock (fun talk =>
    Stores c s candidate owner now talk ∧ clusterCalls talk.exchanges = []) ?_ ?_ ?_
  · refine leads_work_bind (leads_listAll room) ?_ ?_ ?_
    · intro xs s' led
      cases led
    · intro xs error s' led
      cases led with
      | refused pages cause refuses fails =>
          exact ⟨.refused fails (Or.inl refuses), pages.clusterCalls⟩
    · intro xs active s' led
      cases led with
      | found pages =>
          -- The pages that were listed are no part of what is stored or asked of the cluster.
          have further : ∀ talk, Stores c s candidate owner now talk ∧
              clusterCalls talk.exchanges = [] →
              Stores c s candidate owner now (talk.after xs) ∧
                clusterCalls (talk.after xs).exchanges = [] := by
            rintro talk ⟨stores, quiet⟩
            refine ⟨stores.among (List.subset_append_right _ _) ?_, ?_⟩
            · rw [storeWrites_append, pages.storeWrites, List.nil_append]
            · rw [Conversation.exchanges_after, clusterCalls_append, pages.clusterCalls, quiet]
              rfl
          have target := target?_eq_find? s candidate
          rw [activeOf, ← Store.matching_activeFor] at target
          rw [target]
          split
          · rename_i none'
            exact (leads_create_candidate node none').mono further
          · rename_i target found
            exact (leads_mergeInto node found).mono further
  · intro xs s' led
    cases led.1
  · rintro xs result s' ⟨stores, quiet⟩
    refine ⟨stores.among (fun x member => by simp [member]) ?_, ?_⟩
    · rw [storeWrites_append]
      exact List.append_nil _
    · rw [clusterCalls_append]
      exact (List.append_nil _).trans quiet

/-! ## Batches -/

/-- The batch was skipped for a reason, after the cluster was asked this and the store nothing. -/
inductive Skips (s : Store) (reason : SkipReason) (calls : List Exchange) :
    Conversation (Except EngineError BatchOutcome) → Prop
  | intro {xs : List Exchange} (apart : Apart xs) (asked : clusterCalls xs = calls) :
      Skips s reason calls ⟨xs, some (.ok (.skipped reason)), s⟩

namespace Skips

variable {reason : SkipReason} {calls : List Exchange}
  {talk : Conversation (Except EngineError BatchOutcome)} (skips : Skips s reason calls talk)
include skips

theorem result_eq : talk.result = some (.ok (.skipped reason)) := by
  cases skips
  rfl

theorem calls_eq : clusterCalls talk.exchanges = calls := by
  cases skips with
  | intro apart asked => exact asked

theorem leaves_store : Apart talk.exchanges ∧ talk.store = s := by
  cases skips with
  | intro apart asked => exact ⟨apart, rfl⟩

theorem reason_eq {reason' : SkipReason} (ends : talk.result = some (.ok (.skipped reason'))) :
    reason = reason' := by
  rw [skips.result_eq] at ends
  cases ends
  rfl

end Skips

/-- How a batch is handled. -/
inductive Handling (c : Nat → Collaborators) (e : Engine) (events : List Event) (now : Instant)
    (s : Store) : Conversation (Except EngineError BatchOutcome) → Prop
  | insignificant {talk : Conversation (Except EngineError BatchOutcome)}
      (low : ∀ event ∈ events, event.severity = .low) (skips : Skips s .allLowSeverity [] talk) :
      Handling c e events now s talk
  | podless {talk : Conversation (Except EngineError BatchOutcome)}
      (some' : ¬ ∀ event ∈ events, event.severity = .low)
      (none' : (events.find? fun event => event.Counts) = none)
      (skips : Skips s .missingPod [] talk) : Handling c e events now s talk
  | ownerless {talk : Conversation (Except EngineError BatchOutcome)} {first : Event}
      {error : QueryError} (found : (events.find? fun event => event.Counts) = some first)
      (skips : Skips s .ownerUnresolved
        [⟨.owner first.podRef e.settings.queryLimit, .error error⟩] talk) :
      Handling c e events now s talk
  | unrecognized {talk : Conversation (Except EngineError BatchOutcome)} {first : Event}
      {owner : OwnerRef} (found : (events.find? fun event => event.Counts) = some first)
      (none' : e.classified (Engine.counting events) = [])
      (skips : Skips s .unclassified [⟨.owner first.podRef e.settings.queryLimit, .ok owner⟩]
        talk) : Handling c e events now s talk
  | faulty {xs : List Exchange} {first : Event} {owner : OwnerRef}
      {answer : Except QueryError RolloutHealth}
      (found : (events.find? fun event => event.Counts) = some first)
      (some' : e.classified (Engine.counting events) ≠ [])
      (calls : clusterCalls xs =
        ⟨.owner first.podRef e.settings.queryLimit, .ok owner⟩ :: healthCalls e owner answer)
      (ill : Incomparable owner answer) (apart : Apart xs) :
      Handling c e events now s ⟨xs, none, s⟩
  | saved {xs : List Exchange} {first : Event} {owner : OwnerRef}
      {answer : Except QueryError RolloutHealth} {id : String} {given : List String}
      {object : InvolvedObject} {result : Except EngineError SaveOutcome} {s' : Store}
      (found : (events.find? fun event => event.Counts) = some first)
      (some' : e.classified (Engine.counting events) ≠ [])
      (calls : clusterCalls xs =
        ⟨.owner first.podRef e.settings.queryLimit, .ok owner⟩ :: healthCalls e owner answer)
      (well : ¬ Incomparable owner answer)
      (enough : given.length = (e.classified (Engine.counting events)).length)
      (fresh : ⟨.freshId, id⟩ ∈ xs)
      (stores : Stores c s (candidateOf e events owner object id given now) owner now
        ⟨xs, some result, s'⟩) :
      Handling c e events now s ⟨xs, some (result.map .ofSave), s'⟩

theorem leads_skip (e : Engine) (reason : SkipReason) (event : Option Event) (detail : String) :
    Leads c (liftM (e.skip reason event detail) : Work BatchOutcome).run s
      (Skips s reason []) := by
  refine leads_aside nofun fun _ => leads_aside nofun fun _ => leads_pure ⟨?_, rfl⟩
  simp [Apart, Request.AsksStore]

/-- What was asked before a batch was skipped comes before what is asked for that. -/
theorem Skips.after {reason : SkipReason} {calls : List Exchange}
    {talk : Conversation (Except EngineError BatchOutcome)} (skips : Skips s reason calls talk)
    (apart : Apart xs) : Skips s reason (clusterCalls xs ++ calls) (talk.after xs) := by
  cases skips with
  | intro apart' asked => exact ⟨apart.append apart', by rw [clusterCalls_append, asked]⟩

/-- A candidate is built before it is stored, so that its conversation comes first. -/
theorem Handling.of_stores {first : Event} {answer : Except QueryError RolloutHealth} {id : String}
    {given : List String} {object : InvolvedObject} {result : Except EngineError SaveOutcome}
    {s' : Store} (found : (events.find? fun event => event.Counts) = some first)
    (some' : e.classified (Engine.counting events) ≠ []) (apart : Apart xs)
    (calls : clusterCalls xs =
      ⟨.owner first.podRef e.settings.queryLimit, .ok owner⟩ :: healthCalls e owner answer)
    (well : ¬ Incomparable owner answer)
    (enough : given.length = (e.classified (Engine.counting events)).length)
    (fresh : ⟨.freshId, id⟩ ∈ xs)
    (stores : Stores c s (candidateOf e events owner object id given now) owner now
      ⟨ys, some result, s'⟩) (quiet : clusterCalls ys = []) :
    Handling c e events now s ⟨xs ++ ys, some (result.map .ofSave), s'⟩ := by
  refine .saved found some' ?_ well enough (List.mem_append_left _ fresh)
    (stores.among (List.subset_append_right _ _) ?_)
  · rw [clusterCalls_append, calls, quiet, List.append_nil]
  · rw [storeWrites_append, apart.storeWrites, List.nil_append]

/-- After these exchanges, a candidate is built of what is recognised, and saved. -/
theorem leads_saving {first : Event}
    (found : (events.find? fun event => event.Counts) = some first)
    (some' : e.classified (Engine.counting events) ≠ []) (apart : Apart xs)
    (calls : clusterCalls xs = [⟨.owner first.podRef e.settings.queryLimit, .ok owner⟩])
    (now : Instant) (room : s.size < UInt64.size) :
    Leads c
      (do
        let built ← e.candidate (e.classified (Engine.counting events)) owner first now
        return .ofSave (← Saving.save e.node e.settings.pageSize built owner now) :
        Work BatchOutcome).run s
      fun talk => Handling c e events now s (talk.after xs) := by
  have further : ∀ {ys answer}, Consults e owner answer ys → Apart (xs ++ ys) ∧
      clusterCalls (xs ++ ys) =
        ⟨.owner first.podRef e.settings.queryLimit, .ok owner⟩ :: healthCalls e owner answer := by
    intro ys answer consults
    refine ⟨apart.append consults.apart, ?_⟩
    rw [clusterCalls_append, calls, consults.calls, List.singleton_append]
  refine leads_lift (leads_candidate e _ owner first now) ?_ ?_
  · intro ys s' led
    cases led with
    | faulty consults ill =>
        obtain ⟨apart', calls'⟩ := further consults
        exact Handling.faulty found some' calls' ill apart'
  · intro ys built s' led
    cases led with
    | @built _ _ id given object consults well enough fresh =>
        obtain ⟨apart', calls'⟩ := further consults
        have handled : ∀ zs result s', Stores c s (candidateOf e events owner object id given now)
            owner now ⟨zs, some result, s'⟩ ∧ clusterCalls zs = [] →
            Handling c e events now s ⟨xs ++ (ys ++ zs), some (result.map .ofSave), s'⟩ := by
          rintro zs result s' ⟨stores, quiet⟩
          rw [← List.append_assoc]
          exact .of_stores found some' apart' calls' well enough
            (List.mem_append_right xs fresh) stores quiet
        refine leads_work_bind (leads_save _ _ _ owner now room) ?_ ?_ ?_
        · intro zs s' led
          cases led.1
        · exact fun zs error s' led => handled zs (.error error) s' led
        · intro zs saving s' led
          refine leads_pure ?_
          rw [Conversation.after_of_nil]
          exact handled zs (.ok saving) s' led

theorem leads_handleBatch (e : Engine) (events : List Event) (now : Instant)
    (room : s.size < UInt64.size) :
    Leads c (e.handleBatch events now).run s (Handling c e events now s) := by
  unfold Engine.handleBatch
  refine leads_work_aside nofun fun _ => ?_
  have received : Apart [⟨.measure (.add .batchesReceived 1), ()⟩] := by
    simp [Apart, Request.AsksStore]
  split
  · rename_i low
    exact (leads_skip _ _ _ _).mono fun talk skips =>
      .insignificant (Engine.significant_isEmpty_iff.1 low) (skips.after received)
  rename_i high
  have high' := mt Engine.significant_isEmpty_iff.2 high
  have head := Engine.find?_counts events
  split
  · rename_i none'
    rw [none'] at head
    exact (leads_skip _ _ _ _).mono fun talk skips =>
      .podless high' head (skips.after received)
  rename_i first rest counts
  rw [counts] at head
  refine leads_work_aside nofun fun answer => ?_
  have asked : Apart [⟨.owner first.podRef e.settings.queryLimit, answer⟩] := by
    simp [Apart, Request.AsksStore]
  cases answer with
  | error error =>
      exact (leads_skip _ _ _ _).mono fun talk skips =>
        .ownerless head ((skips.after asked).after received)
  | ok owner =>
      dsimp only
      split
      · rename_i none'
        exact (leads_skip _ _ _ _).mono fun talk skips =>
          .unrecognized head (by rw [counts]; exact none') ((skips.after asked).after received)
      · rename_i some'
        rw [← counts] at some' ⊢
        refine leads_work_aside nofun fun _ => ?_
        have counted : Apart [⟨.measure (.add .eventsClassified
            (e.classified (Engine.counting events)).length), ()⟩] := by
          simp [Apart, Request.AsksStore]
        have handling := leads_saving (c := c) head some'
          (received.append (asked.append counted)) rfl now room
        simp only [Conversation.after_after]
        exact handling

end Sequential

end IncidentWatch

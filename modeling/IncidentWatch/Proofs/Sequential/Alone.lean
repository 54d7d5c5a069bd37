import IncidentWatch.Proofs.Interleaving.Rules
import IncidentWatch.Proofs.Sequential.Undisturbed

/-!
# Operations by themselves

Run alone, over a store that refuses nothing and a cluster that answers the same
question the same way each time, a program has one result. Its requests are counted,
and the number of a request decides the id that is given out for it.

What a batch comes to is then a function of the store: it is skipped, or its
candidate is saved (`saved`), which the pages of the listing, the locks, the log and
the ids of the occurrences have no part in (`alone_handleBatch`).
-/

set_option autoImplicit false

namespace IncidentWatch.Sequential

open Interleaving

/-- What the cluster answers to each question. -/
structure Cluster where
  owner : PodRef → Nat → Except QueryError OwnerRef
  rollout : String → String → Nat → Except QueryError RolloutHealth

/-- The collaborators at the request of a number. -/
def Cluster.collaborators (cluster : Cluster) (ids : Nat → String) (n : Nat) : Collaborators where
  answer := fun
    | .lock _ => ()
    | .unlock _ => ()
    | .pruneLocks => ()
    | .create _ => .ok ()
    | .update _ => .ok ()
    | .read id => .error (.notFound id)
    | .list _ _ => .error (.backend "")
    | .owner pod limit => cluster.owner pod limit
    | .rollout namespaceName name limit => cluster.rollout namespaceName name limit
    | .deliver _ _ => .ok ()
    | .log _ => ()
    | .measure _ => ()
    | .succeeded _ => ()
    | .failed _ _ => ()
    | .health => {}
    | .freshId => ids n

/-- The result of a program from the request of a number on, with the number of the next request and
the store then; nothing if it meets a fault. -/
def alone (cluster : Cluster) (ids : Nat → String) {α : Type} :
    Program α → Nat → Store → Option (α × Nat × Store)
  | .done a, n, s => some (a, n, s)
  | .halt _, _, _ => none
  | .ask r next, n, s =>
    match serve (cluster.collaborators ids n) s r with
    | none => none
    | some (a, s') => alone cluster ids (next a) (n + 1) s'

variable {cluster : Cluster} {ids : Nat → String} {α β : Type} {n n' : Nat} {s s' : Store}

/-! ## Parts of programs -/

theorem alone_bind {p : Program α} (f : α → Program β) {a : α}
    (first : alone cluster ids p n s = some (a, n', s')) :
    alone cluster ids (p >>= f) n s = alone cluster ids (f a) n' s' := by
  show alone cluster ids (p.andThen f) n s = _
  induction p generalizing n s with
  | done b =>
      cases first
      rfl
  | halt fault => cases first
  | ask r next inductionHypothesis =>
      simp only [Program.andThen, alone] at first ⊢
      split at first
      · cases first
      · rename_i b s₁ served
        exact inductionHypothesis b first

theorem alone_bind_none {p : Program α} (f : α → Program β)
    (first : alone cluster ids p n s = none) : alone cluster ids (p >>= f) n s = none := by
  show alone cluster ids (p.andThen f) n s = none
  induction p generalizing n s with
  | done b => cases first
  | halt fault => rfl
  | ask r next inductionHypothesis =>
      simp only [Program.andThen, alone] at first ⊢
      split at first
      · rfl
      · rename_i b s₁ served
        exact inductionHypothesis b first

/-- Work goes on after what succeeded. -/
theorem alone_work_bind {w : Work α} (f : α → Work β) {a : α}
    (first : alone cluster ids w.run n s = some (.ok a, n', s')) :
    alone cluster ids (w >>= f).run n s = alone cluster ids (f a).run n' s' :=
  alone_bind _ first

/-- Work ends with what failed. -/
theorem alone_work_fails {w : Work α} (f : α → Work β) {error : EngineError}
    (first : alone cluster ids w.run n s = some (.error error, n', s')) :
    alone cluster ids (w >>= f).run n s = some (.error error, n', s') :=
  alone_bind _ first

theorem alone_lift {p : Program α} {a : α} (first : alone cluster ids p n s = some (a, n', s')) :
    alone cluster ids (liftM p : Work α).run n s = some (.ok a, n', s') :=
  alone_bind _ first

theorem alone_asked {r : Request} {a : r.Answer}
    (served : serve (cluster.collaborators ids n) s r = some (a, s')) :
    alone cluster ids (Program.request r) n s = some (a, n + 1, s') := by
  simp only [Program.request, alone, served]

theorem alone_log (entry : LogEntry) (f : Unit → Work β) :
    alone cluster ids ((liftM (Program.log entry) : Work Unit) >>= f).run n s =
      alone cluster ids (f ()).run (n + 1) s := rfl

theorem alone_count (series : Series) (amount : Nat) (f : Unit → Work β) :
    alone cluster ids ((liftM (Program.count series amount) : Work Unit) >>= f).run n s =
      alone cluster ids (f ()).run (n + 1) s := rfl

theorem alone_owner (pod : PodRef) (limit : Nat) (f : Except QueryError OwnerRef → Work β) :
    alone cluster ids ((liftM (Program.request (.owner pod limit)) :
        Work (Except QueryError OwnerRef)) >>= f).run n s =
      alone cluster ids (f (cluster.owner pod limit)).run (n + 1) s := rfl

/-! ## Listings -/

/-- Alone, a program runs as one that nobody disturbs. -/
theorem alone_eq_undisturbed (p : Program α) (n : Nat) (s : Store) :
    alone cluster ids p n s = (undisturbed (cluster.collaborators ids) p n s).map
      fun (a, requests, s') => (a, n + requests.length, s') := by
  induction p generalizing n s with
  | done a => rfl
  | halt fault => rfl
  | ask r next inductionHypothesis =>
      simp only [alone, undisturbed]
      cases serve (cluster.collaborators ids n) s r with
      | none => rfl
      | some answered =>
          obtain ⟨answer, s₁⟩ := answered
          dsimp only
          rw [inductionHypothesis answer (n + 1) s₁, Option.map_map]
          congr 1
          funext found
          obtain ⟨a, requests, s₂⟩ := found
          simp only [Function.comp, List.length_cons, Nat.add_right_comm, Nat.add_assoc]

/-- A listing finds all that the filter accepts. -/
theorem alone_listAll (cluster : Cluster) (ids : Nat → String) (f : IncidentFilter)
    (pageSize : UInt64) (n : Nat) (room : s.size < UInt64.size) :
    ∃ n', alone cluster ids (Work.listAll f pageSize).run n s =
      some (.ok (s.matching f), n', s) := by
  have succeeds : Succeeds (cluster.collaborators ids) (Work.listAll f pageSize) [] s
      fun found _ s' => found = s.matching f ∧ s' = s :=
    succeeds_listAll (fun _ => rfl) room ⟨rfl, rfl⟩
  obtain ⟨_, requests, _, ran, _, rfl, rfl, rfl⟩ := succeeds n
  refine ⟨n + requests.length, ?_⟩
  rw [alone_eq_undisturbed, ran]
  rfl

/-! ## Saving -/

/-- Work alone finds every lock free. -/
theorem alone_underLock {release : ReleaseKey} {work : Work α} {result : Except EngineError α}
    (inside : alone cluster ids work.run (n + 1) s = some (result, n', s')) :
    alone cluster ids (Work.underLock release work).run n s = some (result, n' + 1, s') := by
  have locked : alone cluster ids (Program.request (.lock release)) n s = some ((), n + 1, s) := rfl
  unfold Work.underLock
  exact (alone_bind _ locked).trans ((alone_bind _ inside).trans rfl)

/-- What saving a candidate comes to, and the store after it. -/
def saved (candidate : Incident) (owner : OwnerRef) (now : Instant) (s : Store) :
    Except EngineError SaveOutcome × Store :=
  match Saving.target? (activeOf s candidate.releaseKey) candidate with
  | none =>
    match s.create candidate with
    | .ok s' => (.ok (.created candidate.id), s')
    | .error error => (.error (.persistence error), s)
  | some target =>
    let (merged, promoted) := target.merge candidate.events owner now
    match s.update merged with
    | .ok s' => (.ok (.merged merged.id promoted), s')
    | .error error => (.error (.persistence error), s)

/-- Creating an incident alone. -/
theorem alone_create (cluster : Cluster) (ids : Nat → String) (i : Incident) (n : Nat) (s : Store) :
    alone cluster ids (Work.create i).run n s =
    match s.create i with
    | .ok s' => some (.ok (), n + 1, s')
    | .error error => some (.error (.persistence error), n + 1, s) := by
  cases created : s.create i with
  | ok s' =>
      have served : serve (cluster.collaborators ids n) s (.create i) = some (.ok (), s') := by
        simp only [serve, Cluster.collaborators, created]
      exact alone_bind _ (alone_asked served)
  | error error =>
      have served : serve (cluster.collaborators ids n) s (.create i) = some (.error error, s) := by
        simp only [serve, Cluster.collaborators, created]
      exact alone_bind _ (alone_asked served)

/-- Updating an incident alone. -/
theorem alone_update (cluster : Cluster) (ids : Nat → String) (i : Incident) (n : Nat) (s : Store) :
    alone cluster ids (Work.update i).run n s =
    match s.update i with
    | .ok s' => some (.ok (), n + 1, s')
    | .error error => some (.error (.persistence error), n + 1, s) := by
  cases updated : s.update i with
  | ok s' =>
      have served : serve (cluster.collaborators ids n) s (.update i) = some (.ok (), s') := by
        simp only [serve, Cluster.collaborators, updated]
      exact alone_bind _ (alone_asked served)
  | error error =>
      have served : serve (cluster.collaborators ids n) s (.update i) = some (.error error, s) := by
        simp only [serve, Cluster.collaborators, updated]
      exact alone_bind _ (alone_asked served)

/-- Saving alone is a function of the store. -/
theorem alone_save (cluster : Cluster) (ids : Nat → String) (node : String) (pageSize : UInt64)
    (candidate : Incident) (owner : OwnerRef) (now : Instant) (n : Nat)
    (room : s.size < UInt64.size) :
    ∃ n', alone cluster ids (Saving.save node pageSize candidate owner now).run n s =
      some ((saved candidate owner now s).1, n', (saved candidate owner now s).2) := by
  obtain ⟨n₁, listed⟩ :=
    alone_listAll cluster ids (.activeFor candidate.releaseKey) pageSize (n + 1) room
  rw [Store.matching_activeFor] at listed
  suffices inside : ∃ n₂, alone cluster ids
      (match Saving.target? (activeOf s candidate.releaseKey) candidate with
        | none => Saving.create node candidate
        | some target => Saving.mergeInto node target candidate owner now).run n₁ s =
      some ((saved candidate owner now s).1, n₂, (saved candidate owner now s).2) by
    obtain ⟨n₂, inside⟩ := inside
    exact ⟨n₂ + 1, alone_underLock ((alone_work_bind _ listed).trans inside)⟩
  unfold saved
  cases Saving.target? (activeOf s candidate.releaseKey) candidate with
  | none =>
      dsimp only
      unfold Saving.create
      have create := alone_create cluster ids candidate n₁ s
      cases created : s.create candidate with
      | ok s' =>
          rw [created] at create
          rw [alone_work_bind _ create]
          exact ⟨n₁ + 3, rfl⟩
      | error error =>
          rw [created] at create
          exact ⟨n₁ + 1, alone_work_fails _ create⟩
  | some target =>
      dsimp only
      unfold Saving.mergeInto
      rw [alone_log]
      have update := alone_update cluster ids (target.merge candidate.events owner now).1 (n₁ + 1) s
      cases updated : s.update (target.merge candidate.events owner now).1 with
      | ok s' =>
          rw [updated] at update
          rw [alone_work_bind _ update]
          exact ⟨n₁ + 4, rfl⟩
      | error error =>
          rw [updated] at update
          exact ⟨n₁ + 2, alone_work_fails _ update⟩

/-! ## Batches -/

/-- The scope depends on the owner and on what the cluster answers about it, and on nothing else. -/
theorem alone_scope (cluster : Cluster) (ids : Nat → String) (e : Engine) (owner : OwnerRef)
    (origin : Event) :
    (∀ n s, alone cluster ids (e.scope owner origin) n s = none) ∨
      ∃ object, ∀ n s, ∃ n', alone cluster ids (e.scope owner origin) n s =
        some (object, n', s) := by
  let pod : InvolvedObject := ⟨.pod, origin.podName, origin.podNamespace⟩
  unfold Engine.scope
  cases owner.kind with
  | deployment =>
      dsimp only
      have asked : ∀ n s,
          alone cluster ids (Program.request
            (.rollout owner.namespaceName owner.name e.settings.queryLimit)) n s =
          some (cluster.rollout owner.namespaceName owner.name e.settings.queryLimit, n + 1, s) :=
        fun _ _ => rfl
      cases answer : cluster.rollout owner.namespaceName owner.name e.settings.queryLimit with
      | error error =>
          refine Or.inr ⟨pod, fun n s => ⟨n + 2, ?_⟩⟩
          rw [alone_bind _ (asked n s), answer]
          rfl
      | ok health =>
          cases failing : health.isFailing with
          | error fault =>
              refine Or.inl fun n s => ?_
              rw [alone_bind _ (asked n s), answer]
              dsimp only
              rw [failing]
              rfl
          | ok failing' =>
              refine Or.inr ⟨if failing' then owner.involvedObject else pod,
                fun n s => ⟨n + 1, ?_⟩⟩
              rw [alone_bind _ (asked n s), answer]
              dsimp only
              rw [failing]
              rfl
  | _ => exact Or.inr ⟨_, fun n s => ⟨n, rfl⟩⟩

/-- One id is given out for each of a list. -/
theorem alone_freshIds (cluster : Cluster) (ids : Nat → String) (items : List β) (n : Nat)
    (s : Store) :
    ∃ given n', given.length = items.length ∧
      alone cluster ids (items.mapM fun _ => Program.request .freshId) n s =
        some (given, n', s) := by
  induction items generalizing n with
  | nil => exact ⟨[], n, rfl, rfl⟩
  | cons item rest inductionHypothesis =>
      obtain ⟨given, n', length, found⟩ := inductionHypothesis (n + 1)
      refine ⟨ids n :: given, n', by simp [length], ?_⟩
      have first : alone cluster ids (Program.request .freshId) n s = some (ids n, n + 1, s) := rfl
      rw [List.mapM_cons, alone_bind _ first, alone_bind _ found]
      rfl

/-- A candidate is built of the recognised events, the owner and the scope; only the ids and the
instant are its own. -/
theorem alone_candidate {e : Engine} (recognized : List ClassifiedEvent) {owner : OwnerRef}
    {origin : Event} {object : InvolvedObject}
    (scope : ∀ n s, ∃ n', alone cluster ids (e.scope owner origin) n s = some (object, n', s))
    (now : Instant) (n : Nat) (s : Store) :
    ∃ id given n', given.length = recognized.length ∧
      alone cluster ids (e.candidate recognized owner origin now) n s =
        some (Candidate.build id given recognized owner object now, n', s) := by
  obtain ⟨n₁, found⟩ := scope n s
  obtain ⟨given, n₂, length, all⟩ := alone_freshIds cluster ids recognized (n₁ + 1) s
  have first : alone cluster ids (Program.request .freshId) n₁ s = some (ids n₁, n₁ + 1, s) := rfl
  refine ⟨ids n₁, given, n₂ + 1, length, ?_⟩
  unfold Engine.candidate
  rw [alone_bind _ found, alone_bind _ first, alone_bind _ all]
  rfl

/-- The candidate of a batch, with given ids. -/
def candidateOf (e : Engine) (events : List Event) (owner : OwnerRef) (object : InvolvedObject)
    (id : String) (given : List String) (now : Instant) : Incident :=
  Candidate.build id given (e.classified (Engine.counting events)) owner object now

/-- In every store and at every instant, a batch comes to saving a candidate of one owner and one
scope. -/
def Saves (cluster : Cluster) (ids : Nat → String) (e : Engine) (events : List Event)
    (owner : OwnerRef) (object : InvolvedObject) : Prop :=
  ∀ now n s, s.size < UInt64.size → ∃ id given n',
    given.length = (e.classified (Engine.counting events)).length ∧
      let candidate := candidateOf e events owner object id given now
      alone cluster ids (e.handleBatch events now).run n s =
        some ((saved candidate owner now s).1.map .ofSave, n', (saved candidate owner now s).2)

/-- How a batch goes, in every store and at every instant: it is skipped, it meets a fault, or its
candidate is saved. -/
inductive Goes (cluster : Cluster) (ids : Nat → String) (e : Engine) (events : List Event) : Prop
  | skipped (reason : SkipReason) (ends : ∀ now n s, ∃ n',
      alone cluster ids (e.handleBatch events now).run n s = some (.ok (.skipped reason), n', s))
  | faulty (ends : ∀ now n s, alone cluster ids (e.handleBatch events now).run n s = none)
  | saves (owner : OwnerRef) (object : InvolvedObject)
      (ends : Saves cluster ids e events owner object)

/-- A batch whose owner is known and of which some event is recognised comes to its candidate. -/
theorem alone_recognized {e : Engine} {events rest : List Event} {first : Event} {owner : OwnerRef}
    (high : ¬ (Engine.significant events).isEmpty = true)
    (counting : Engine.counting events = first :: rest)
    (found : cluster.owner first.podRef e.settings.queryLimit = .ok owner)
    (some' : e.classified (first :: rest) ≠ []) (now : Instant) :
    alone cluster ids (e.handleBatch events now).run n s =
      alone cluster ids ((liftM (e.candidate (e.classified (first :: rest)) owner first now) :
        Work Incident) >>= fun built => do
          return .ofSave (← Saving.save e.node e.settings.pageSize built owner now)).run
        (n + 3) s := by
  unfold Engine.handleBatch
  rw [alone_count, if_neg high, counting]
  dsimp only
  rw [alone_owner, found]
  dsimp only
  split
  · contradiction
  · rw [alone_count]

theorem alone_handleBatch (cluster : Cluster) (ids : Nat → String) (e : Engine)
    (events : List Event) : Goes cluster ids e events := by
  by_cases low : (Engine.significant events).isEmpty = true
  · refine .skipped .allLowSeverity fun now n s => ⟨n + 3, ?_⟩
    unfold Engine.handleBatch
    rw [alone_count, if_pos low]
    rfl
  cases counting : Engine.counting events with
  | nil =>
      refine .skipped .missingPod fun now n s => ⟨n + 3, ?_⟩
      unfold Engine.handleBatch
      rw [alone_count, if_neg low, counting]
      rfl
  | cons first rest =>
      cases found : cluster.owner first.podRef e.settings.queryLimit with
      | error error =>
          refine .skipped .ownerUnresolved fun now n s => ⟨n + 4, ?_⟩
          unfold Engine.handleBatch
          rw [alone_count, if_neg low, counting]
          dsimp only
          rw [alone_owner, found]
          rfl
      | ok owner =>
          by_cases none' : e.classified (first :: rest) = []
          · refine .skipped .unclassified fun now n s => ⟨n + 4, ?_⟩
            unfold Engine.handleBatch
            rw [alone_count, if_neg low, counting]
            dsimp only
            rw [alone_owner, found]
            dsimp only
            rw [none']
            rfl
          · rcases alone_scope cluster ids e owner first with fault | ⟨object, scope⟩
            · refine .faulty fun now n s => ?_
              rw [alone_recognized low counting found none']
              exact alone_bind_none _ (alone_bind_none _ (alone_bind_none _ (fault _ _)))
            · refine .saves owner object fun now n s room => ?_
              obtain ⟨id, given, n₁, length, built⟩ :=
                alone_candidate (e.classified (first :: rest)) scope now (n + 3) s
              obtain ⟨n₂, saves⟩ := alone_save cluster ids e.node e.settings.pageSize
                (Candidate.build id given (e.classified (first :: rest)) owner object now) owner now
                n₁ room
              unfold candidateOf
              rw [counting]
              refine ⟨id, given, n₂, length, ?_⟩
              rw [alone_recognized low counting found none', alone_work_bind _ (alone_lift built)]
              refine (alone_bind _ saves).trans ?_
              cases (saved (Candidate.build id given (e.classified (first :: rest)) owner object
                now) owner now s).1 with
              | ok outcome => rfl
              | error error => rfl

end IncidentWatch.Sequential

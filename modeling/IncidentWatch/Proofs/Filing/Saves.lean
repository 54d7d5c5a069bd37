import IncidentWatch.Proofs.Course.Records
import IncidentWatch.Proofs.Filing.Brief

/-!
# The batches of an incident

The history tells which batches were saved under the id of an incident, each with what it
was told of the owner of its pods (`savedUnder`). The latest comes first, and the one that
created the incident last.

What a stored incident has to do with its batches is proved by induction on them
(`Engine.Accounts`): it holds of a new incident and the batch that created it, merging a
further batch keeps it, and so does every change that a sweep makes. Then it holds of all
stored incidents after every schedule (`accounts_after`).
-/

set_option autoImplicit false

namespace IncidentWatch

namespace Engine

variable {e : Engine}

/-- What sweeps leave alone. -/
theorem Change.unmoved {now : Instant} {stage : Stage} {i j : Incident}
    (change : e.Change (.sweep now) stage i j) :
    j.involvedObject = i.involvedObject ∧ j.events = i.events ∧ j.severity = i.severity := by
  cases change with
  | counted probes counts => cases counts <;> exact ⟨rfl, rfl, rfl⟩
  | _ => exact ⟨rfl, rfl, rfl⟩

/-- A relation of incidents to their batches that holds from the first batch on, and is kept by
merges and by sweeps. -/
structure Accounts (e : Engine) (P : Incident → List Saved → Prop) : Prop where
  created : ∀ {b i}, e.Files b i → P i [b]
  merged : ∀ {b i j saves}, e.Folds b j → i.Evolves j → P i saves → P j (b :: saves)
  swept : ∀ {now stage i j saves}, e.Change (.sweep now) stage i j → P i saves → P j saves

end Engine

namespace Interleaving

open IncidentWatch.Interleaving.System

/-! ## Reading the history -/

/-- The batch that an operation saves, with what it was told. -/
def saved? (t : Nat) (earlier : List Entry) : Option Saved :=
  (operationOf t earlier).bind (brief.reading t earlier).saved?

/-- The incident that was created or written over. -/
def Happening.written? : Happening → Option Incident
  | .answered (.create i) (.ok _) => some i
  | .answered (.update i) (.ok _) => some i
  | _ => none

/-- The batches that were saved under an id, latest first. -/
def savedUnder (id : String) : List Entry → List Saved
  | [] => []
  | ⟨t, what⟩ :: earlier =>
    if what.written?.any (·.id = id) then (saved? t earlier).toList ++ savedUnder id earlier
    else savedUnder id earlier

section History

variable {t : Nat} {what : Happening} {i : Incident} {earlier : List Entry}

theorem savedUnder_written (written : what.written? = some i) :
    savedUnder i.id (⟨t, what⟩ :: earlier) =
      (saved? t earlier).toList ++ savedUnder i.id earlier := by
  simp [savedUnder, written]

theorem savedUnder_other {id : String} (other : ∀ i, what.written? = some i → id ≠ i.id) :
    savedUnder id (⟨t, what⟩ :: earlier) = savedUnder id earlier := by
  cases written : what.written? with
  | none => simp [savedUnder, written]
  | some i => simp [savedUnder, written, (other i written).symm]

theorem savedUnder_unwritten {id : String} (unwritten : what.written? = none) :
    savedUnder id (⟨t, what⟩ :: earlier) = savedUnder id earlier := by
  refine savedUnder_other fun i written => ?_
  cases unwritten.symm.trans written

theorem saved?_sweep {now : Instant} (sweeps : operationOf t earlier = some (.sweep now)) :
    saved? t earlier = none := by
  rw [saved?, sweeps]
  rfl

theorem saved?_batch {b : Saved} {events : List Event} {now : Instant}
    (batch : operationOf t earlier = some (.batch events now))
    (told : (brief.reading t earlier).saved? (.batch events now) = some b) :
    saved? t earlier = some b := by
  rw [saved?, batch]
  exact told

/-- Whoever saves is a batch, and saves itself. -/
theorem operationOf_saved? {b : Saved} (saves : saved? t earlier = some b) :
    operationOf t earlier = some (.batch b.events b.now) := by
  obtain ⟨op, begun, told⟩ := Option.bind_eq_some_iff.1 saves
  cases op with
  | batch events now =>
      obtain ⟨owner, -, rfl⟩ := Option.map_eq_some_iff.1 told
      exact begun
  | sweep now => cases told

end History

/-! ## Induction on the batches -/

variable {e : Engine} {P : Incident → List Saved → Prop}

/-- The relation holds of what is stored, and nothing was saved under any other id. -/
structure Accounted (P : Incident → List Saved → Prop) (s : Situation) : Prop where
  kept : ∀ i ∈ s.store.incidents, P i (savedUnder i.id s.history)
  unknown : ∀ id, s.store.get? id = none → savedUnder id s.history = []

namespace Accounted

variable {s s' : System} {t : Nat} {task : Task}

/-- What leaves the store and the batches alone leaves the relation. -/
theorem of_same {s s' : Situation} (accounted : Accounted P s) (store : s'.store = s.store)
    (same : ∀ id, savedUnder id s'.history = savedUnder id s.history) : Accounted P s' := by
  refine ⟨?_, ?_⟩
  · intro i
    rw [store, same]
    exact accounted.kept i
  · intro id
    rw [store, same]
    exact accounted.unknown id

/-- Writing an incident keeps the relation if it holds of that incident, with the batch that was
saved in writing it. -/
theorem write {what : Happening} {j : Incident} {store : Store}
    (accounted : Accounted P s.toSituation) (written : what.written? = some j)
    (others : ∀ k ∈ store.incidents, k = j ∨ k ∈ s.store.incidents ∧ k.id ≠ j.id)
    (absent : ∀ id, store.get? id = none → s.store.get? id = none ∧ id ≠ j.id)
    (new : P j ((saved? t s.history).toList ++ savedUnder j.id s.history)) :
    Accounted P ⟨store, ⟨t, what⟩ :: s.history⟩ := by
  have away : ∀ id, id ≠ j.id → savedUnder id (⟨t, what⟩ :: s.history) =
      savedUnder id s.history := by
    intro id other
    refine savedUnder_other fun k written' => ?_
    cases written.symm.trans written'
    exact other
  refine ⟨?_, ?_⟩
  · intro k member
    rcases others k member with rfl | ⟨before, other⟩
    · show P k (savedUnder k.id (⟨t, what⟩ :: s.history))
      rw [savedUnder_written written]
      exact new
    · show P k (savedUnder k.id (⟨t, what⟩ :: s.history))
      rw [away k.id other]
      exact accounted.kept k before
  · intro id missing
    obtain ⟨missingBefore, other⟩ := absent id missing
    show savedUnder id (⟨t, what⟩ :: s.history) = []
    rw [away id other]
    exact accounted.unknown id missingBefore

theorem created {i : Incident} {store : Store} {b : Saved} (accounts : e.Accounts P)
    (accounted : Accounted P s.toSituation) (created : s.store.create i = .ok store)
    (saves : saved? t s.history = some b) (files : e.Files b i) :
    Accounted P (s.answered t (.create i) (.ok ()) store) := by
  refine accounted.write rfl ?_ ?_ ?_
  · exact Store.forall_create created (Or.inl rfl)
      fun k member => Or.inr ⟨member, Store.id_ne_of_create created member⟩
  · intro id absent
    refine ⟨Store.absent_of_create created absent, ?_⟩
    rintro rfl
    rw [Store.get?_create created, if_pos rfl] at absent
    cases absent
  · rw [accounted.unknown i.id (Store.get?_of_create created), saves]
    exact accounts.created files

theorem updated {j : Incident} {store : Store} (accounted : Accounted P s.toSituation)
    (updated : s.store.update j = .ok store)
    (new : P j ((saved? t s.history).toList ++ savedUnder j.id s.history)) :
    Accounted P (s.answered t (.update j) (.ok ()) store) :=
  accounted.write rfl
    (Store.forall_update updated (Or.inl rfl) fun _ member other => Or.inr ⟨member, other⟩)
    (fun _ absent => Store.absent_of_update updated absent) new

/-- An answer keeps the relation. -/
theorem answered (accounts : e.Accounts P) (accounted : Accounted P s.toSituation)
    (standing : Standing e s) {r : Request} {next : r.Answer → Program Outcome}
    {c : Collaborators} {a : r.Answer} {store : Store} (here : s.tasks t = some task)
    (asks : task.rest = .ask r next) (served : serve c s.store r = some (a, store))
    (only : e.SavesOnly task.operation (brief.reading t s.history) r) :
    Accounted P (s.answered t r a store) := by
  have begun := (standing.onCourse t).begun task here
  cases r with
  | create i =>
      rcases serve_create served with ⟨rfl, created⟩ | ⟨error, rfl, rfl⟩
      · have may := (standing.onCourse t).may here asks
        obtain ⟨events, now, batch, -⟩ := Engine.candidate_of_may may
        rw [batch] at only begun
        obtain ⟨b, told, files⟩ := only
        exact accounted.created accounts created (saved?_batch begun told) files
      · exact accounted.of_same rfl fun id => savedUnder_unwritten rfl
  | update j =>
      rcases serve_update served with ⟨rfl, updated⟩ | ⟨error, rfl, rfl⟩
      · obtain ⟨i, stored, evolves, change⟩ := standing.change here asks
        have before : P i (savedUnder j.id s.history) := by
          obtain ⟨member, id⟩ := Store.get?_eq_some_iff.1 stored
          rw [← id]
          exact accounted.kept i member
        refine accounted.updated updated ?_
        cases operation : task.operation with
        | batch events now =>
            rw [operation] at only begun
            obtain ⟨b, told, folds⟩ := only
            rw [saved?_batch begun told]
            exact accounts.merged folds evolves before
        | sweep now =>
            rw [operation] at change begun
            rw [saved?_sweep begun]
            exact accounts.swept change before
      · exact accounted.of_same rfl fun id => savedUnder_unwritten rfl
  | _ =>
      have same := store_of_reads served (fun _ => nofun) (fun _ => nofun)
      exact accounted.of_same same fun id => savedUnder_unwritten rfl

theorem move (accounts : e.Accounts P) (accounted : Accounted P s.toSituation)
    (standing : Standing e s)
    (only : ∀ {task r next}, s.tasks t = some task → task.rest = .ask r next →
      e.SavesOnly task.operation (brief.reading t s.history) r)
    (move : Move e s t s') : Accounted P s'.toSituation := by
  cases move with
  | begun op => exact accounted.of_same rfl fun id => savedUnder_unwritten rfl
  | queued here asks new => exact accounted
  | answered here asks granted served =>
      exact accounted.answered accounts standing here asks served (only here asks)
  | ended here finished => exact accounted.of_same rfl fun id => savedUnder_unwritten rfl
  | stopped here => exact accounted.of_same rfl fun id => savedUnder_unwritten rfl

end Accounted

theorem accounted_after (accounts : e.Accounts P) (schedule : List Turn) :
    Accounted P (after e schedule).toSituation := by
  refine after_moves (P := fun s => Accounted P s.toSituation) ?_ ?_ schedule
  · refine ⟨?_, fun _ _ => rfl⟩
    intro i member
    cases member
  · intro earlier t s' accounted move
    exact accounted.move accounts (standing_after e earlier)
      (fun here asks => may_after e.heeds_operation earlier here asks) move

/-- What holds of new incidents, and is kept by merges and sweeps, holds of whatever is stored with
the batches that were saved under its id. -/
theorem accounts_after (accounts : e.Accounts P) (schedule : List Turn) {i : Incident}
    (member : i ∈ (after e schedule).store.incidents) :
    P i (savedUnder i.id (after e schedule).history) :=
  (accounted_after accounts schedule).kept i member

end Interleaving

end IncidentWatch

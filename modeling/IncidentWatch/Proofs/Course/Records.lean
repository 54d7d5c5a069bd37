import IncidentWatch.Proofs.Course.Standing

/-!
# Stages and records

The store bears out what the stages of operations say (`Grounded`): an incident in hand is
stored as it is in hand, as long as the lock of its release is held; every incident that a
stage is about is in the store or a later record of it; those that an operation has
resolved are resolved, and those that it has found active are active.

So it is known how the record of an incident changes (`Engine.Change`): whoever writes over
it has it in hand, and the stage tells which change it is (`Standing.change`).
-/

set_option autoImplicit false

namespace IncidentWatch

open Interleaving (Operation)

namespace Engine

variable {e : Engine} {now : Instant} {op : Operation} {stage : Stage} {i j : Incident}
  {verdict : Verdict} {kind : AlertKind} {view : IncidentView}

/-! ## Announcements -/

theorem announcement?_eq_opened_iff :
    e.announcement? now i verdict = some .opened ↔
      verdict = .unresolved ∧ e.isAlertDue i now = true := by
  cases verdict <;> simp [announcement?]

theorem announcement?_eq_resolved_iff :
    e.announcement? now i verdict = some .resolved ↔
      verdict = .resolved ∧ i.severity = .critical := by
  cases verdict <;> simp [announcement?]

/-- After a verdict, an announcement is asked for if one is due; else the sweep turns to another
incident or to its end. -/
theorem asks_of_judged {r : Request} (may : e.SweepMay now (.judged i verdict) r) :
    (∃ kind, e.announcement? now i verdict = some kind ∧ r = .deliver kind i.view) ∨
      e.announcement? now i verdict = none ∧
        ((∃ release, r = .lock release) ∨ r = .pruneLocks) := by
  simp only [SweepMay] at may
  split at may
  · rename_i kind due
    exact Or.inl ⟨kind, due, may⟩
  · rename_i nothing
    exact Or.inr ⟨nothing, may⟩

/-- After a verdict, nothing is asked of the store. -/
theorem not_asked_of_judged {r : Request} (may : e.SweepMay now (.judged i verdict) r)
    (delivers : ∀ kind view, r ≠ .deliver kind view) (locks : ∀ release, r ≠ .lock release)
    (prunes : r ≠ .pruneLocks) : False := by
  rcases asks_of_judged may with ⟨kind, -, same⟩ | ⟨-, ⟨release, same⟩ | same⟩
  · exact delivers kind i.view same
  · exact locks release same
  · exact prunes same

/-- An announcement is asked for after a verdict on an incident, when it is due. -/
theorem deliver_of_sweepMay (may : e.SweepMay now stage (.deliver kind view)) :
    ∃ i verdict, stage = .judged i verdict ∧ e.announcement? now i verdict = some kind ∧
      view = i.view := by
  cases stage with
  | judged i verdict =>
      rcases asks_of_judged may with ⟨kind, due, same⟩ | ⟨-, ⟨release, same⟩ | same⟩
      · cases same
        exact ⟨i, verdict, rfl, due, rfl⟩
      · cases same
      · cases same
  | _ => exact may.elim

/-! ## Changes -/

/-- How an operation changes the record of an incident, at a stage. -/
inductive Change (e : Engine) : Operation → Stage → Incident → Incident → Prop
  | merged {events : List Event} {now : Instant} {listed : List Incident} {target : Incident}
      {owner : OwnerRef} {candidate : Incident} (among : target ∈ listed)
      (isCandidate : e.IsCandidate now events owner candidate) :
      Change e (.batch events now) (.entered listed) target
        (target.merge candidate.events owner now).1
  | counted {now : Instant} {i j : Incident} {health : RolloutHealth} (probes : e.Probes now i)
      (counts : Counts i health j) : Change e (.sweep now) (.probed i health) i j
  | settled {now : Instant} {i : Incident}
      (spared : ¬ (i.involvedObject.kind = .deployment ∧ i.severity = .critical))
      (quiet : QuietFor now i e.settings.settleAfter) :
      Change e (.sweep now) (.found i) i (i.resolvedAt now)
  | recovered {now : Instant} {i : Incident} {health : RolloutHealth} (probes : e.Probes now i)
      (recovered : e.Recovered i health) :
      Change e (.sweep now) (.counted i health) i (i.resolvedAt now)
  | givenUp {now : Instant} {i : Incident} (quiet : QuietFor now i e.settings.settleAfter) :
      Change e (.sweep now) (.unreadable i) i (i.resolvedAt now)
  | marked {now : Instant} {i : Incident} {kind : AlertKind} :
      Change e (.sweep now) (.reread i kind) i { i with lastAlerted := some now }

/-- Whoever may write over a record makes one of these changes, of an incident in hand. -/
theorem change_of_may (may : e.May op stage (.update j)) :
    ∃ i ∈ stage.inHand, e.Change op stage i j := by
  cases op with
  | batch events now =>
      cases stage with
      | entered listed =>
          obtain ⟨target, among, owner, candidate, isCandidate, rfl⟩ := may
          exact ⟨target, among, .merged among isCandidate⟩
      | _ => exact may.elim
  | sweep now =>
      cases stage with
      | found i =>
          obtain ⟨spared, quiet, rfl⟩ := may
          exact ⟨i, List.mem_singleton_self i, .settled spared quiet⟩
      | probed i health => exact ⟨i, List.mem_singleton_self i, .counted may.1 may.2⟩
      | counted i health =>
          obtain ⟨probes, recovered, rfl⟩ := may
          exact ⟨i, List.mem_singleton_self i, .recovered probes recovered⟩
      | unreadable i =>
          obtain ⟨quiet, rfl⟩ := may
          exact ⟨i, List.mem_singleton_self i, .givenUp quiet⟩
      | reread i kind =>
          cases may
          exact ⟨i, List.mem_singleton_self i, .marked⟩
      | judged i verdict =>
          exact (not_asked_of_judged may (fun _ _ => nofun) (fun _ => nofun) nofun).elim
      | _ => exact may.elim

/-- After an answer about the health of a deployment, its record is asked for. -/
theorem counts_of_may {health : RolloutHealth} {r : Request}
    (may : e.May op (.probed i health) r) : ∃ j, r = .update j ∧ Counts i health j := by
  cases op with
  | batch events now => exact may.elim
  | sweep now =>
      cases r with
      | update j => exact ⟨j, rfl, may.2⟩
      | _ => exact may.elim

/-- Only batches create incidents, from their events. -/
theorem candidate_of_may (may : e.May op stage (.create j)) :
    ∃ events now, op = .batch events now ∧ ∃ owner, e.IsCandidate now events owner j := by
  cases op with
  | batch events now =>
      cases stage with
      | entered listed => exact ⟨events, now, rfl, may⟩
      | _ => exact may.elim
  | sweep now =>
      cases stage with
      | judged i verdict =>
          exact (not_asked_of_judged may (fun _ _ => nofun) (fun _ => nofun) nofun).elim
      | _ => exact may.elim

theorem Change.id (change : e.Change op stage i j) : j.id = i.id := by
  cases change with
  | @merged events now listed target owner candidate among isCandidate =>
      obtain ⟨scope, same⟩ := i.merge_eq candidate.events owner now
      rw [same]
  | counted probes counts => cases counts <;> rfl
  | _ => rfl

theorem Change.releaseKey (change : e.Change op stage i j) : j.releaseKey = i.releaseKey := by
  cases change with
  | @merged events now listed target owner candidate among isCandidate =>
      obtain ⟨scope, same⟩ := i.merge_eq candidate.events owner now
      rw [same]
      rfl
  | counted probes counts => cases counts <;> rfl
  | _ => rfl

end Engine

/-! ## The incident that was resolved -/

theorem Incident.Evolves.closed {i j : Incident} (evolves : i.Evolves j)
    (closed : i.status = .resolved) : j.status = .resolved := by
  rw [evolves.resolved closed]
  exact closed

namespace Stage

variable {stage : Stage} {i j : Incident}

theorem closed?_of_locked (closed : stage.locked.closed? = some i) : stage.closed? = some i := by
  cases stage with
  | delivered j kind => cases kind <;> exact closed
  | _ => cases closed

theorem closed?_of_unlocked (closed : stage.unlocked.closed? = some i) :
    stage.closed? = some i := by
  cases stage with
  | resolved j => exact closed
  | _ => cases closed

theorem closed?_of_asked {answer : Except QueryError RolloutHealth}
    (closed : (stage.asked answer).closed? = some i) : stage.closed? = some i := by
  cases stage with
  | found j => cases answer <;> exact closed
  | _ => exact closed

theorem closed?_of_shown {items : List Incident}
    (closed : (stage.shown items).closed? = some i) : stage.closed? = some i := by
  cases stage <;> exact closed

@[simp] theorem closed?_refused : stage.refused.closed? = none := by
  cases stage <;> rfl

/-- An incident that was resolved and is read again. -/
theorem closed?_of_read (closed : (stage.read j).closed? = some i) :
    i = j ∧ ∃ k, stage = .marking k .resolved := by
  cases stage with
  | marking k kind =>
      cases kind with
      | opened => cases closed
      | resolved =>
          cases closed
          exact ⟨rfl, k, rfl⟩
  | _ =>
      simp only [read] at closed
      split at closed <;> cases closed

/-! ## The incident that was found active -/

@[simp] theorem live?_locked : stage.locked.live? = none := by
  cases stage <;> rfl

@[simp] theorem live?_refused : stage.refused.live? = none := by
  cases stage <;> rfl

theorem live?_of_unlocked (live : stage.unlocked.live? = some i) : stage.live? = some i := by
  cases stage with
  | found j => exact live
  | counted j health => exact live
  | _ => cases live

theorem live?_of_asked {answer : Except QueryError RolloutHealth}
    (live : (stage.asked answer).live? = some i) : stage.live? = some i := by
  cases stage with
  | found j => cases answer <;> exact live
  | _ => exact live

theorem live?_of_shown {items : List Incident} (live : (stage.shown items).live? = some i) :
    stage.live? = some i := by
  cases stage <;> exact live

theorem live?_of_announced {kind : AlertKind} {answer : Except String Unit}
    (live : (stage.announced kind answer).live? = some i) : stage.live? = some i := by
  cases stage with
  | judged j verdict => cases answer <;> cases live
  | _ => exact live

/-- Only what is read or stored can make an incident live. -/
theorem live?_of_next {r : Request} {a : r.Answer} (live : (stage.next r a).live? = some i)
    (reads : ∀ id, r ≠ .read id) (updates : ∀ i, r ≠ .update i) : stage.live? = some i := by
  cases r with
  | lock release => simp [next] at live
  | unlock release => exact live?_of_unlocked live
  | rollout namespaceName name limit => exact live?_of_asked live
  | deliver kind view => exact live?_of_announced live
  | pruneLocks => cases live
  | create j => cases live
  | update j => exact absurd rfl (updates j)
  | read id => exact absurd rfl (reads id)
  | list f p =>
      cases a with
      | ok page => exact live?_of_shown live
      | error error => simp [next] at live
  | _ => exact live

/-- An incident that is read is found only if it is active. -/
theorem live?_of_read (live : (stage.read j).live? = some i) : i = j ∧ i.status = .active := by
  cases stage with
  | marking k kind => cases live
  | _ =>
      simp only [read] at live
      split at live
      · rename_i active
        cases live
        exact ⟨rfl, Incident.isActive_iff.1 active⟩
      · cases live

end Stage

namespace Engine

variable {e : Engine} {now : Instant} {stage : Stage} {i j : Incident}

theorem closed?_of_announced {kind : AlertKind} {view : IncidentView}
    {answer : Except String Unit} (may : e.SweepMay now stage (.deliver kind view))
    (closed : (stage.announced kind answer).closed? = some i) : stage.closed? = some i := by
  obtain ⟨j, verdict, rfl, due, -⟩ := deliver_of_sweepMay may
  cases answer with
  | error text => cases closed
  | ok delivered =>
      cases kind with
      | opened => cases closed
      | resolved =>
          obtain ⟨rfl, -⟩ := announcement?_eq_resolved_iff.1 due
          exact closed

/-- Whichever incident is stored as resolved is resolved. -/
theorem Change.closed {op : Operation} (change : e.Change op stage i j) {k : Incident}
    (closed : (stage.updated j).closed? = some k) : k = j ∧ k.status = .resolved := by
  cases change with
  | settled spared quiet =>
      cases closed
      exact ⟨rfl, rfl⟩
  | recovered probes recovered =>
      cases closed
      exact ⟨rfl, rfl⟩
  | givenUp quiet =>
      cases closed
      exact ⟨rfl, rfl⟩
  | _ => cases closed

/-- Whichever incident is still live after it was stored was so before. -/
theorem Change.live {op : Operation} (change : e.Change op stage i j) {k : Incident}
    (live : (stage.updated j).live? = some k) :
    k = j ∧ stage.live? = some i ∧ j.status = i.status ∧ j.lastAlerted = i.lastAlerted := by
  cases change with
  | counted probes counts =>
      cases live
      cases counts <;> exact ⟨rfl, rfl, rfl, rfl⟩
  | _ => cases live

end Engine

namespace Interleaving

open IncidentWatch.Interleaving.System

variable {e : Engine} {s s' : System} {t u : Nat} {task : Task} {i : Incident}

/-! ## What is shown is stored -/

theorem get?_of_shown {c : Collaborators} {before after : Store} {r : Request} {a : r.Answer}
    (served : serve c before r = some (a, after)) (member : i ∈ shown r a) :
    after.get? i.id = some i := by
  cases r with
  | create j =>
      rcases serve_create served with ⟨rfl, created⟩ | ⟨error, rfl, -⟩
      · obtain rfl := List.mem_singleton.1 member
        exact Store.get?_of_mem (Store.mem_of_create created)
      · cases member
  | update j =>
      rcases serve_update served with ⟨rfl, updated⟩ | ⟨error, rfl, -⟩
      · obtain rfl := List.mem_singleton.1 member
        exact Store.get?_of_mem (Store.mem_of_update updated)
      · cases member
  | read id =>
      obtain ⟨rfl, found⟩ := serve_read served
      cases a with
      | ok j =>
          obtain rfl := List.mem_singleton.1 member
          have stored := found i rfl
          rw [(Store.get?_eq_some_iff.1 stored).2]
          exact stored
      | error error => cases member
  | list f p =>
      obtain ⟨rfl, found⟩ := serve_list served
      cases a with
      | ok page =>
          have matched := Page.mem_of_mem_ofList (found page rfl) member
          exact Store.get?_of_mem (List.mem_of_mem_filter matched)
      | error error => cases member
  | _ => cases member

theorem store_of_reads {c : Collaborators} {before after : Store} {r : Request} {a : r.Answer}
    (served : serve c before r = some (a, after)) (creates : ∀ i, r ≠ .create i)
    (updates : ∀ i, r ≠ .update i) : after = before := by
  rcases serve_cases served with same | ⟨i, same, -⟩ | ⟨i, same, -⟩
  · exact same
  · exact absurd same (creates i)
  · exact absurd same (updates i)

/-! ## Grounded stages -/

/-- The store bears out the stage of an operation. -/
structure Grounded (s : System) (t : Nat) : Prop where
  stored : ∀ i ∈ (stageOf t s.history).inHand, held t s.history = some i.releaseKey →
    s.store.get? i.id = some i
  carried : ∀ i ∈ (stageOf t s.history).incidents, s.store.Carries i
  closed : ∀ i, (stageOf t s.history).closed? = some i → i.status = .resolved
  live : ∀ i, (stageOf t s.history).live? = some i → i.status = .active
  filing : ∀ events now, operationOf t s.history = some (.batch events now) →
    (stageOf t s.history).Filing

theorem grounded_apart (apart : stageOf t s.history = .apart) : Grounded s t := by
  refine ⟨?_, ?_, ?_, ?_, ?_⟩
  · rw [apart]
    exact fun _ member => nomatch member
  · rw [apart]
    exact fun _ member => nomatch member
  · rw [apart]
    exact fun _ closed => nomatch closed
  · rw [apart]
    exact fun _ live => nomatch live
  · rw [apart]
    exact fun _ _ _ => trivial

/-- Where operations stand in a system, and what the store has to do with it. -/
structure Standing (e : Engine) (s : System) : Prop where
  steady : Steady (custody e) s
  onCourse : ∀ t, OnCourse e s t
  grounded : ∀ t, Grounded s t

namespace Standing

variable (standing : Standing e s)
include standing

/-- The incident that a stage is about is stored, as it is or as a later record of it. -/
theorem carries (about : (stageOf t s.history).incidents = [i]) : s.store.Carries i := by
  apply (standing.grounded t).carried i
  rw [about]
  exact List.mem_singleton_self i

theorem grounded_other (move : Move e s t s') (apart : u ≠ t) : Grounded s' u := by
  have meanwhile : Meanwhile u s.toSituation s'.toSituation := standing.steady.rely_move move apart
  have before := standing.grounded u
  refine ⟨?_, ?_, ?_, ?_, ?_⟩
  · rw [move_stageOf move apart, move_held move apart]
    intro i member locked
    exact meanwhile.get? locked (before.stored i member locked)
  · rw [move_stageOf move apart]
    intro i member
    exact (before.carried i member).of_evolves meanwhile.grows
  · rw [move_stageOf move apart]
    exact before.closed
  · rw [move_stageOf move apart]
    exact before.live
  · rw [move_stageOf move apart, move_operationOf move apart]
    exact before.filing

section Answered

variable {r : Request} {next : r.Answer → Program Outcome} {c : Collaborators} {a : r.Answer}
  {store : Store}

theorem stored_answered (served : serve c s.store r = some (a, store)) (i : Incident)
    (member : i ∈ ((stageOf t s.history).next r a).inHand)
    (locked : heldAfter (held t s.history) r = some i.releaseKey) : store.get? i.id = some i := by
  rcases Stage.mem_inHand_next member with new | ⟨spares, before⟩
  · exact get?_of_shown served new
  · have same : store = s.store :=
      store_of_reads served (fun j creates => by rw [creates] at spares; exact spares)
        fun j updates => by rw [updates] at spares; exact spares
    rw [same]
    apply (standing.grounded t).stored i before
    cases r with
    | lock release => exact spares.elim
    | unlock release => exact spares.elim
    | _ => exact locked

variable (here : s.tasks t = some task) (asks : task.rest = .ask r next)
  (served : serve c s.store r = some (a, store))
include here asks served

theorem carried_answered (i : Incident)
    (member : i ∈ ((stageOf t s.history).next r a).incidents) : store.Carries i := by
  rcases Stage.mem_incidents_next member with new | before
  · exact Store.carries_of_get? (get?_of_shown served new)
  · exact ((standing.grounded t).carried i before).of_evolves
      (grows_of_allowed (standing.steady.allowed here asks) served)

theorem closed_answered (i : Incident)
    (closed : ((stageOf t s.history).next r a).closed? = some i) : i.status = .resolved := by
  have may := (standing.onCourse t).may here asks
  have before := standing.grounded t
  cases op : task.operation with
  | batch events now =>
      rw [op] at may
      rw [(Engine.filing_next may a).closed?] at closed
      cases closed
  | sweep now =>
      rw [op] at may
      cases r with
      | lock release => exact before.closed i (Stage.closed?_of_locked closed)
      | unlock release => exact before.closed i (Stage.closed?_of_unlocked closed)
      | rollout namespaceName name limit => exact before.closed i (Stage.closed?_of_asked closed)
      | deliver kind view =>
          exact before.closed i (Engine.closed?_of_announced may closed)
      | pruneLocks => cases closed
      | create j => cases closed
      | update j =>
          cases a with
          | ok written =>
              have may' : e.May (.sweep now) (stageOf t s.history) (.update j) := may
              obtain ⟨k, -, change⟩ := Engine.change_of_may may'
              exact (change.closed closed).2
          | error error => simp [Stage.next] at closed
      | read id =>
          cases a with
          | ok j =>
              -- What is read again for the mark of its resolution is a later record of it.
              obtain ⟨rfl, k, marking⟩ := Stage.closed?_of_read closed
              rw [marking] at may
              have sameId : id = k.id := may
              obtain ⟨later, stored, evolves⟩ := standing.carries (by rw [marking]; rfl)
              have found := (serve_read served).2 i rfl
              rw [sameId, stored] at found
              cases found
              exact evolves.closed (before.closed k (by rw [marking]; rfl))
          | error error => simp [Stage.next] at closed
      | list f p =>
          cases a with
          | ok page => exact before.closed i (Stage.closed?_of_shown closed)
          | error error => simp [Stage.next] at closed
      | _ => exact before.closed i closed

omit served in
theorem live_answered (i : Incident)
    (live : ((stageOf t s.history).next r a).live? = some i) : i.status = .active := by
  have may := (standing.onCourse t).may here asks
  have before := standing.grounded t
  cases op : task.operation with
  | batch events now =>
      rw [op] at may
      rw [(Engine.filing_next may a).live?] at live
      cases live
  | sweep now =>
      rw [op] at may
      cases r with
      | update j =>
          cases a with
          | ok written =>
              have may' : e.May (.sweep now) (stageOf t s.history) (.update j) := may
              obtain ⟨k, -, change⟩ := Engine.change_of_may may'
              obtain ⟨rfl, found, same, -⟩ := change.live live
              rw [same]
              exact before.live k found
          | error error => simp [Stage.next] at live
      | read id =>
          cases a with
          | ok j => exact (Stage.live?_of_read live).2
          | error error => simp [Stage.next] at live
      | _ =>
          refine before.live i (Stage.live?_of_next live ?_ ?_)
          · intro id same
            cases same
          · intro j same
            cases same

theorem grounded_answered :
    Grounded (s.resume t task.operation r a store (next a)) t := by
  have stage : stageOf t (s.resume t task.operation r a store (next a)).history =
      (stageOf t s.history).next r a := stageOf_answered
  have holds : held t (s.resume t task.operation r a store (next a)).history =
      heldAfter (held t s.history) r := held_answered
  have begun : operationOf t (s.resume t task.operation r a store (next a)).history =
      some task.operation := operationOf_answered.trans ((standing.onCourse t).begun task here)
  refine ⟨?_, ?_, ?_, ?_, ?_⟩
  · rw [stage, holds]
    exact standing.stored_answered served
  · rw [stage]
    exact standing.carried_answered here asks served
  · rw [stage]
    exact standing.closed_answered here asks served
  · rw [stage]
    exact standing.live_answered here asks
  · rw [stage, begun]
    intro events now same
    have may := (standing.onCourse t).may here asks
    rw [Option.some.inj same] at may
    exact Engine.filing_next may a

end Answered

theorem grounded_move (move : Move e s t s') (u : Nat) : Grounded s' u := by
  by_cases apart : u ≠ t
  · exact standing.grounded_other move apart
  · obtain rfl := not_not.1 apart
    cases move with
    | begun op => exact grounded_apart (stageOf_noted fun _ _ same => nomatch same)
    | queued here asks new =>
        have before := standing.grounded u
        exact ⟨before.stored, before.carried, before.closed, before.live, before.filing⟩
    | answered here asks granted served => exact standing.grounded_answered here asks served
    | ended here finished => exact grounded_apart (stageOf_noted fun _ _ same => nomatch same)
    | stopped here => exact grounded_apart (stageOf_noted fun _ _ same => nomatch same)

end Standing

theorem standing_after (e : Engine) (schedule : List Turn) : Standing e (after e schedule) := by
  refine ⟨steady_custody e schedule, onCourse_after e schedule, ?_⟩
  refine after_moves (P := fun s => ∀ t, Grounded s t) (fun t => grounded_apart rfl) ?_ schedule
  intro earlier t s' grounded move
  have standing : Standing e (after e earlier) :=
    ⟨steady_custody e earlier, onCourse_after e earlier, grounded⟩
  exact standing.grounded_move move

/-! ## Changes of records -/

namespace Standing

variable (standing : Standing e s)
include standing

/-- Whoever is about to write over a record has it in hand, and makes one of the changes. -/
theorem change {j : Incident} {next : Except StoreError Unit → Program Outcome}
    (here : s.tasks t = some task) (asks : task.rest = .ask (.update j) next) :
    ∃ i, s.store.get? j.id = some i ∧ i.Evolves j ∧
      e.Change task.operation (stageOf t s.history) i j := by
  obtain ⟨old, may⟩ : ∃ old, MayUpdate t s.toSituation j old := standing.steady.allowed here asks
  obtain ⟨i, inHand, change⟩ := Engine.change_of_may ((standing.onCourse t).may here asks)
  have locked : held t s.history = some i.releaseKey := by
    rw [may.locked, ← may.evolves.releaseKey, change.releaseKey]
  have stored := (standing.grounded t).stored i inHand locked
  rw [← change.id, may.stored] at stored
  cases stored
  exact ⟨old, may.stored, may.evolves, change⟩

end Standing

end Interleaving

end IncidentWatch

import IncidentWatch.Proofs.Alert.Announcement
import IncidentWatch.Proofs.Instant.Elapsed

/-!
# Marks and announcements

What a sweep goes by when it announces an open incident again is the mark that is stored
with the incident. The mark is the instant of the last announcement that was accepted,
except while a sweep that had one accepted is still about to store it, and accepted
announcements are as far apart as the severity asks for (`Punctual`).

What a batch does keeps that up (`Punctual.filed`), and so does what a sweep does, in
whichever stage it is, as long as the store refuses nothing (`punctual_answered`).
-/

set_option autoImplicit false

namespace IncidentWatch

open Engine (Verdict)

/-! ## Marks that are due -/

namespace Stage

/-- The open incident of which an announcement was accepted that is not marked yet. -/
def toMark? : Stage → Option Incident
  | .delivered i .opened => some i
  | .marking i .opened => some i
  | .reread i .opened => some i
  | _ => none

variable {stage : Stage}

/-- Only an accepted announcement makes a mark due. -/
theorem toMark?_next_eq_none (free : stage.toMark? = none) {r : Request}
    (delivers : ∀ kind view, r ≠ .deliver kind view) (a : r.Answer) :
    (stage.next r a).toMark? = none := by
  cases r with
  | lock release =>
      cases stage with
      | delivered i kind =>
          cases kind with
          | opened => cases free
          | resolved => rfl
      | _ => rfl
  | unlock release => cases stage <;> rfl
  | pruneLocks => rfl
  | create i => rfl
  | update i => cases a <;> cases stage <;> rfl
  | read id =>
      cases a with
      | ok i =>
          cases stage with
          | marking j kind =>
              cases kind with
              | opened => cases free
              | resolved => rfl
          | _ =>
              simp only [next, read]
              split <;> rfl
      | error error => cases stage <;> rfl
  | list f p =>
      cases a with
      | ok page => cases stage <;> exact free
      | error error => cases stage <;> rfl
  | rollout namespaceName name limit =>
      cases stage with
      | found i => cases a <;> rfl
      | _ => exact free
  | deliver kind view => exact absurd rfl (delivers kind view)
  | _ => exact free

end Stage

namespace Engine

open Interleaving (Operation)

variable {e : Engine} {op : Operation} {now : Instant} {stage : Stage} {i : Incident}

/-- As long as a mark is due, it is what the sweep is after. -/
theorem toMark?_next {r : Request} (may : e.SweepMay now stage r)
    (reads : ∀ id, r ≠ .read id) (updates : ∀ i, r ≠ .update i)
    (delivers : ∀ kind view, r ≠ .deliver kind view) (a : r.Answer) :
    (stage.next r a).toMark? = stage.toMark? := by
  cases stage with
  | delivered i kind =>
      cases r with
      | lock release => cases kind <;> rfl
      | _ => exact may.elim
  | marking i kind =>
      cases r with
      | read id => exact absurd rfl (reads id)
      | _ => exact may.elim
  | reread i kind =>
      cases r with
      | update j => exact absurd rfl (updates j)
      | _ => exact may.elim
  | _ => exact Stage.toMark?_next_eq_none rfl delivers a

/-- An incident is due when there is no last announcement, or it is long enough ago. -/
theorem isAlertDue_iff (positive : 0 < e.settings.realertHours i.severity) :
    e.isAlertDue i now = true ↔
      ∀ last ∈ i.lastAlerted, HoursApart (e.settings.realertHours i.severity) last now := by
  unfold isAlertDue
  cases i.lastAlerted with
  | none => simp
  | some last => simp [le_hoursSince_iff positive]

end Engine

namespace Interleaving

open IncidentWatch.Interleaving.System

variable {e : Engine} {s s' : System} {t u : Nat} {task : Task} {id : String} {now : Instant}

/-! ## Accepted announcements -/

/-- When the announcements of the open incident of an id were accepted, latest first. -/
def accepted (id : String) (history : List Entry) : List Instant :=
  ((announcements .opened id history).filter (·.accepted)).map (·.now)

theorem accepted_of_same {history history' : List Entry}
    (same : announcements .opened id history' = announcements .opened id history) :
    accepted id history' = accepted id history := by
  unfold accepted
  rw [same]

theorem accepted_delivered {history : List Entry} {view : IncidentView}
    (begun : operationOf t history = some (.sweep now)) :
    accepted view.id (⟨t, .answered (.deliver .opened view) (.ok ())⟩ :: history) =
      now :: accepted view.id history := by
  unfold accepted
  rw [announcements_delivered begun]
  rfl

theorem accepted_refused {history : List Entry} {view : IncidentView} {text : String} :
    accepted id (⟨t, .answered (.deliver .opened view) (.error text)⟩ :: history) =
      accepted id history := by
  unfold accepted
  by_cases same : view.id = id
  · subst same
    cases begun : operationOf t history with
    | none => simp [announcements, begun]
    | some op =>
        cases op with
        | batch events now => simp [announcements, begun]
        | sweep now => simp [announcements, begun, Except.isOk, Except.toBool]
  · rw [announcements_delivered_other (Or.inr same)]

/-! ## Punctual sweeps -/

/-- The alerts of a run are in time, with the sweep under way at a stage. -/
structure Punctual (e : Engine) (stage : Stage) (now : Instant) (s : Situation) : Prop where
  /-- The mark of an active incident is its last accepted announcement, unless it is due yet. -/
  marked : ∀ i ∈ s.store.incidents, i.status = .active →
    (∀ j, stage.toMark? = some j → j.id ≠ i.id) → i.lastAlerted = (accepted i.id s.history).head?
  current : ∀ i, stage.live? = some i → i.lastAlerted = (accepted i.id s.history).head?
  pending : ∀ i, stage.toMark? = some i → (accepted i.id s.history).head? = some now
  spaced : ∀ i ∈ s.store.incidents, (accepted i.id s.history).Pairwise fun later earlier =>
    HoursApart (e.settings.realertHours i.severity) earlier later
  known : ∀ id, s.store.get? id = none → accepted id s.history = []

namespace Punctual

variable {stage stage' : Stage} {s s' : Situation}

/-- What leaves the store and the accepted announcements alone. -/
theorem of_same (punctual : Punctual e stage now s) (store : s'.store = s.store)
    (same : ∀ id, accepted id s'.history = accepted id s.history)
    (live : ∀ i, stage'.live? = some i → stage.live? = some i)
    (toMark : stage'.toMark? = stage.toMark?) : Punctual e stage' now s' := by
  refine ⟨?_, ?_, ?_, ?_, ?_⟩
  · intro i
    rw [store, same, toMark]
    exact punctual.marked i
  · intro i found
    rw [same]
    exact punctual.current i (live i found)
  · intro i
    rw [same, toMark]
    exact punctual.pending i
  · intro i
    rw [store, same]
    exact punctual.spaced i
  · intro id
    rw [store, same]
    exact punctual.known id

/-- What is no answer leaves the alerts as they are. -/
theorem noted {what : Happening} (punctual : Punctual e stage now s)
    (leaves : ∀ r a, what ≠ .answered r a) : Punctual e stage now (s.note t what) :=
  punctual.of_same rfl (fun _ => accepted_of_same (announcements_noted leaves))
    (fun _ live => live) rfl

/-- Without a sweep that is after a mark, all marks are stored. -/
theorem apart (punctual : Punctual e stage now s) (free : stage.toMark? = none)
    (other : Instant) : Punctual e .apart other s := by
  refine ⟨?_, fun i found => (nomatch found), fun i due => (nomatch due), punctual.spaced,
    punctual.known⟩
  intro i member active _
  refine punctual.marked i member active fun j due => ?_
  rw [free] at due
  cases due

section Written

variable {i j : Incident} {store : Store} (punctual : Punctual e stage now s)
  (same : ∀ id, accepted id s'.history = accepted id s.history) (after : s'.store = store)
include punctual same after

/-- A new incident was never announced. -/
theorem created (created : s.store.create i = .ok store) (unmarked : i.lastAlerted = none) :
    Punctual e stage now s' := by
  have silent := punctual.known i.id (Store.get?_of_create created)
  refine ⟨?_, ?_, ?_, ?_, ?_⟩
  · rw [after]
    refine Store.forall_create created ?_ ?_
    · intro _ _
      rw [same, silent]
      exact unmarked
    · intro k member
      rw [same]
      exact punctual.marked k member
  · intro k
    rw [same]
    exact punctual.current k
  · intro k
    rw [same]
    exact punctual.pending k
  · rw [after]
    refine Store.forall_create created ?_ ?_
    · rw [same, silent]
      exact List.Pairwise.nil
    · intro k member
      rw [same]
      exact punctual.spaced k member
  · intro id absent
    rw [after] at absent
    rw [same]
    exact punctual.known id (Store.absent_of_create created absent)

/-- A record changes. If its mark does, it is stored as it should be. -/
theorem updated (stored : s.store.get? j.id = some i) (updated : s.store.update j = .ok store)
    (severity : j.severity = i.severity)
    (marked : j.status = .active → (∀ k, stage'.toMark? = some k → k.id ≠ j.id) →
      j.lastAlerted = (accepted j.id s.history).head?)
    (live : ∀ k, stage'.live? = some k → k.lastAlerted = (accepted k.id s.history).head?)
    (toMark : ∀ k, stage'.toMark? = some k → stage.toMark? = some k)
    (others : ∀ k, stage.toMark? = some k → stage'.toMark? = some k ∨ k.id = j.id) :
    Punctual e stage' now s' := by
  obtain ⟨memberOld, sameId⟩ := Store.get?_eq_some_iff.1 stored
  refine ⟨?_, ?_, ?_, ?_, ?_⟩
  · rw [after]
    refine Store.forall_update updated ?_ ?_
    · rw [same]
      exact marked
    · intro k member other active free
      rw [same]
      refine punctual.marked k member active fun l due => ?_
      rcases others l due with still | this
      · exact free l still
      · rw [this]
        exact other.symm
  · intro k found
    rw [same]
    exact live k found
  · intro k due
    rw [same]
    exact punctual.pending k (toMark k due)
  · rw [after]
    refine Store.forall_update updated ?_ ?_
    · rw [same, severity, ← sameId]
      exact punctual.spaced i memberOld
    · intro k member _
      rw [same]
      exact punctual.spaced k member
  · intro id absent
    rw [after] at absent
    rw [same]
    exact punctual.known id (Store.absent_of_update updated absent).1

end Written

end Punctual

section Moves

variable {stage : Stage} {r : Request} {next : r.Answer → Program Outcome} {c : Collaborators}
  {a : r.Answer} {store : Store}

/-- What a batch does leaves the alerts of a sweep in time. -/
theorem Punctual.filed (punctual : Punctual e stage now s.toSituation) (standing : Standing e s)
    (here : s.tasks t = some task) (asks : task.rest = .ask r next)
    (served : serve c s.store r = some (a, store)) {events : List Event} {begun : Instant}
    (op : task.operation = .batch events begun) :
    Punctual e stage now (s.answered t r a store) := by
  have may := (standing.onCourse t).may here asks
  rw [op] at may
  have delivers : ∀ kind view, r ≠ .deliver kind view := by
    rintro kind view rfl
    generalize stageOf t s.history = standpoint at may
    cases standpoint <;> exact may.elim
  have same : ∀ id, accepted id (s.answered t r a store).history = accepted id s.history :=
    fun id => accepted_of_same (announcements_answered delivers)
  cases r with
  | create i =>
      rcases serve_create served with ⟨rfl, created⟩ | ⟨error, rfl, rfl⟩
      · obtain ⟨events', now', -, owner, -, id', ids, object, -, rfl⟩ := Engine.candidate_of_may may
        exact punctual.created same rfl created rfl
      · exact punctual.of_same rfl same (fun _ live => live) rfl
  | update j =>
      rcases serve_update served with ⟨rfl, updated⟩ | ⟨error, rfl, rfl⟩
      · obtain ⟨i, stored, evolves, change⟩ := standing.change here asks
        rw [op] at change
        generalize stageOf t s.history = standpoint at change
        have sameId := change.id
        cases change with
        | merged among isCandidate =>
            obtain ⟨scope, merged⟩ := i.merge_eq _ _ _
            obtain ⟨member, -⟩ := Store.get?_eq_some_iff.1 stored
            refine punctual.updated same rfl stored updated evolves.severity ?_ punctual.current
              (fun _ due => due) fun _ due => Or.inl due
            rw [sameId, merged]
            exact punctual.marked i member
      · exact punctual.of_same rfl same (fun _ live => live) rfl
  | _ =>
      obtain rfl := store_of_reads served (fun _ => nofun) (fun _ => nofun)
      exact punctual.of_same rfl same (fun _ live => live) rfl

/-! ### Moves of the sweep -/

/-- A store that refuses nothing reads what it has. -/
theorem read_of_working {i : Incident} {answer : Except StoreError Incident}
    (works : c.refusal = none) (stored : s.store.get? id = some i)
    (served : serve c s.store (.read id) = some (answer, store)) : answer = .ok i := by
  simp only [serve, works] at served
  cases served
  exact Store.read_eq_ok_iff.2 stored

/-- A store that refuses nothing updates what it has. -/
theorem update_of_working {i j : Incident} {answer : Except StoreError Unit}
    (works : c.refusal = none) (stored : s.store.get? j.id = some i)
    (served : serve c s.store (.update j) = some (answer, store)) :
    answer = .ok () ∧ s.store.update j = .ok store := by
  rcases serve_update served with updated | ⟨error, rfl, -⟩
  · exact updated
  · obtain ⟨member, sameId⟩ := Store.get?_eq_some_iff.1 stored
    obtain ⟨after, updated⟩ := Store.exists_update (Store.get?_of_mem member) sameId.symm
    simp only [serve, works, updated] at served
    cases served

variable (standing : Standing e s) (punctual : Punctual e (stageOf t s.history) now s.toSituation)
include standing punctual

/-- The last accepted announcement of an incident, with the one that is accepted now. -/
theorem spaced_delivered (positive : ∀ severity, 0 < e.settings.realertHours severity)
    {i : Incident} (judged : stageOf t s.history = .judged i .unresolved)
    (due : e.isAlertDue i now = true)
    {k : Incident} (member : k ∈ s.store.incidents) (sameId : k.id = i.id) :
    (now :: accepted i.id s.history).Pairwise fun later earlier =>
      HoursApart (e.settings.realertHours k.severity) earlier later := by
  have spaced := punctual.spaced k member
  rw [sameId] at spaced
  have severity : k.severity = i.severity := by
    obtain ⟨later, stored, evolves⟩ := standing.carries (i := i) (by rw [judged]; rfl)
    rw [← sameId, Store.get?_of_mem member] at stored
    cases stored
    exact evolves.severity
  have current := punctual.current i (by rw [judged]; rfl)
  have long := (Engine.isAlertDue_iff (positive i.severity)).1 due
  rw [severity] at spaced ⊢
  rw [current] at long
  refine List.pairwise_cons.2 ⟨fun earlier among => ?_, spaced⟩
  generalize accepted i.id s.history = instants at *
  cases instants with
  | nil => cases among
  | cons last rest =>
      have sinceLast := long last rfl
      rcases List.mem_cons.1 among with rfl | before
      · exact sinceLast
      · exact ((List.pairwise_cons.1 spaced).1 earlier before).trans (positive _) sinceLast

/-- An announcement of an open incident is accepted. -/
theorem punctual_accepted (positive : ∀ severity, 0 < e.settings.realertHours severity)
    {i : Incident} (judged : stageOf t s.history = .judged i .unresolved)
    (due : e.isAlertDue i now = true)
    (begun : operationOf t s.history = some (.sweep now)) :
    Punctual e (.delivered i .opened) now
      (s.answered t (.deliver .opened i.view) (.ok ()) s.store) := by
  have here : accepted i.id (s.answered t (.deliver .opened i.view) (.ok ()) s.store).history =
      now :: accepted i.id s.history := accepted_delivered begun
  have away : ∀ id, id ≠ i.id →
      accepted id (s.answered t (.deliver .opened i.view) (.ok ()) s.store).history =
        accepted id s.history := fun id other =>
    accepted_of_same (announcements_delivered_other (Or.inr other.symm))
  refine ⟨?_, ?_, ?_, ?_, ?_⟩
  · intro k member active free
    have other := free i rfl
    rw [away k.id other.symm]
    refine punctual.marked k member active fun j due' => ?_
    rw [judged] at due'
    cases due'
  · intro k live
    cases live
  · intro k marks
    cases marks
    rw [here]
    rfl
  · intro k member
    by_cases sameId : k.id = i.id
    · rw [sameId, here]
      exact spaced_delivered standing punctual positive judged due member sameId
    · rw [away k.id sameId]
      exact punctual.spaced k member
  · intro id absent
    have other : id ≠ i.id := by
      rintro rfl
      obtain ⟨later, stored, -⟩ := standing.carries (i := i) (by rw [judged]; rfl)
      rw [show s.store.get? i.id = none from absent] at stored
      cases stored
    rw [away id other]
    exact punctual.known id absent

variable (here : s.tasks t = some task) (op : task.operation = .sweep now)
include here op

theorem punctual_delivered (positive : ∀ severity, 0 < e.settings.realertHours severity)
    {kind : AlertKind} {view : IncidentView} {answer : Except String Unit}
    (may : e.May task.operation (stageOf t s.history) (.deliver kind view)) :
    Punctual e ((stageOf t s.history).announced kind answer) now
      (s.answered t (.deliver kind view) answer s.store) := by
  have begun := (standing.onCourse t).begun task here
  rw [op] at may begun
  obtain ⟨i, verdict, judged, due, rfl⟩ := Engine.deliver_of_sweepMay may
  -- No open incident is announced, or the announcement is refused.
  have still : (∀ id, accepted id (s.answered t (.deliver kind i.view) answer s.store).history =
        accepted id s.history) → ((Stage.judged i verdict).announced kind answer).toMark? = none →
      Punctual e ((Stage.judged i verdict).announced kind answer) now
        (s.answered t (.deliver kind i.view) answer s.store) := by
    intro same free
    refine punctual.of_same rfl same (fun k live => ?_) ?_
    · rw [judged]
      exact Stage.live?_of_announced live
    · rw [free, judged]
      rfl
  rw [judged]
  cases kind with
  | resolved =>
      refine still (fun id => accepted_of_same (announcements_delivered_other (Or.inl nofun))) ?_
      cases answer <;> rfl
  | opened =>
      cases answer with
      | error text => exact still (fun id => accepted_refused) rfl
      | ok delivered =>
          obtain ⟨rfl, early⟩ := Engine.announcement?_eq_opened_iff.1 due
          exact punctual_accepted standing punctual positive judged early begun

omit here in
theorem punctual_read {id : String} {answer : Except StoreError Incident} {c : Collaborators}
    {store : Store} (may : e.May task.operation (stageOf t s.history) (.read id))
    (works : c.refusal = none) (served : serve c s.store (.read id) = some (answer, store)) :
    Punctual e ((stageOf t s.history).next (.read id) answer) now
      (s.answered t (.read id) answer s.store) := by
  have same : ∀ id', accepted id' (s.answered t (.read id) answer s.store).history =
      accepted id' s.history := fun id' => rfl
  obtain ⟨-, found⟩ := serve_read served
  rw [op] at may
  generalize reached : stageOf t s.history = stage at may punctual
  cases stage with
  | entered listed =>
      cases answer with
      | error error => exact punctual.of_same rfl same (fun _ live => nomatch live) rfl
      | ok j =>
          have delivers : ∀ kind view, Request.read id ≠ .deliver kind view := fun _ _ => nofun
          have free : ((Stage.entered listed).next (.read id) (.ok j)).toMark? = none :=
            Stage.toMark?_next_eq_none rfl delivers _
          refine ⟨?_, ?_, ?_, punctual.spaced, punctual.known⟩
          · intro k member active _
            exact punctual.marked k member active fun _ due => nomatch due
          · intro k live
            have read : ((Stage.entered listed).read j).live? = some k := live
            obtain ⟨rfl, active⟩ := Stage.live?_of_read read
            have member := (Store.get?_eq_some_iff.1 (found k rfl)).1
            exact punctual.marked k member active fun _ due => nomatch due
          · intro k due
            rw [free] at due
            cases due
  | marking i kind =>
      -- The incident is there, so it is read again.
      obtain ⟨k, stored, evolves⟩ := standing.carries (i := i) (by rw [reached]; rfl)
      obtain rfl : id = i.id := may
      obtain rfl := read_of_working works stored served
      cases kind with
      | resolved => exact punctual.of_same rfl same (fun _ live => nomatch live) rfl
      | opened =>
          refine ⟨?_, fun _ live => (nomatch live), ?_, punctual.spaced, punctual.known⟩
          · intro l member active free
            refine punctual.marked l member active fun j due => ?_
            cases due
            rw [← evolves.id]
            exact free k rfl
          · intro l due
            cases due
            rw [same, evolves.id]
            exact punctual.pending i rfl
  | judged i verdict =>
      exact (Engine.not_asked_of_judged may (fun _ _ => nofun) (fun _ => nofun) nofun).elim
  | _ => exact may.elim

theorem punctual_updated {j : Incident} {rest : Except StoreError Unit → Program Outcome}
    {answer : Except StoreError Unit} (asks : task.rest = .ask (.update j) rest)
    (works : c.refusal = none) (served : serve c s.store (.update j) = some (answer, store)) :
    Punctual e ((stageOf t s.history).next (.update j) answer) now
      (s.answered t (.update j) answer store) := by
  obtain ⟨i, stored, evolves, change⟩ := standing.change here asks
  obtain ⟨rfl, updated⟩ := update_of_working works stored served
  have same : ∀ id, accepted id (s.answered t (.update j) (.ok ()) store).history =
      accepted id s.history := fun id => rfl
  obtain ⟨member, sameId⟩ := Store.get?_eq_some_iff.1 stored
  have closed := (standing.grounded t).closed
  rw [op] at change
  generalize stageOf t s.history = stage at change punctual closed
  cases change with
  | counted probes counts =>
      have kept : j.lastAlerted = i.lastAlerted := by cases counts <;> rfl
      have current := punctual.current i rfl
      rw [sameId] at current
      refine punctual.updated same rfl stored updated evolves.severity ?_ ?_ ?_ ?_
      · intro _ _
        exact kept.trans current
      · intro k live
        cases live
        exact kept.trans current
      · exact fun k due => nomatch due
      · exact fun k due => nomatch due
  | settled spared quiet =>
      refine punctual.updated same rfl stored updated evolves.severity ?_ ?_ ?_ ?_
      · exact fun active => nomatch active
      · exact fun k live => nomatch live
      · exact fun k due => nomatch due
      · exact fun k due => nomatch due
  | recovered probes recovered =>
      refine punctual.updated same rfl stored updated evolves.severity ?_ ?_ ?_ ?_
      · exact fun active => nomatch active
      · exact fun k live => nomatch live
      · exact fun k due => nomatch due
      · exact fun k due => nomatch due
  | givenUp quiet =>
      refine punctual.updated same rfl stored updated evolves.severity ?_ ?_ ?_ ?_
      · exact fun active => nomatch active
      · exact fun k live => nomatch live
      · exact fun k due => nomatch due
      · exact fun k due => nomatch due
  | @marked now i kind =>
      refine punctual.updated same rfl stored updated evolves.severity ?_ ?_ ?_ ?_
      · intro active _
        cases kind with
        | opened => exact (punctual.pending i rfl).symm
        | resolved =>
            have shut : i.status = .resolved := closed i rfl
            rw [show i.status = .active from active] at shut
            cases shut
      · exact fun k live => nomatch live
      · exact fun k due => nomatch due
      · intro k due
        cases kind with
        | opened =>
            cases due
            exact Or.inr rfl
        | resolved => cases due

/-- What a sweep does leaves its alerts in time, if the store refuses nothing. -/
theorem punctual_answered (positive : ∀ severity, 0 < e.settings.realertHours severity)
    {r : Request} {rest : r.Answer → Program Outcome} {a : r.Answer}
    (asks : task.rest = .ask r rest) (works : c.refusal = none)
    (served : serve c s.store r = some (a, store)) :
    Punctual e ((stageOf t s.history).next r a) now (s.answered t r a store) := by
  have may := (standing.onCourse t).may here asks
  cases r with
  | create i =>
      rw [op] at may
      obtain ⟨events, begun, same, -⟩ := Engine.candidate_of_may may
      cases same
  | update j => exact punctual_updated standing punctual here op asks works served
  | read id =>
      obtain rfl := store_of_reads served (fun _ => nofun) (fun _ => nofun)
      exact punctual_read standing punctual op may works served
  | deliver kind view =>
      obtain rfl := store_of_reads served (fun _ => nofun) (fun _ => nofun)
      exact punctual_delivered standing punctual here op positive may
  | _ =>
      obtain rfl := store_of_reads served (fun _ => nofun) (fun _ => nofun)
      rw [op] at may
      refine punctual.of_same rfl (fun id => accepted_of_same
        (announcements_answered fun _ _ => nofun)) (fun i live => ?_) ?_
      · exact Stage.live?_of_next live (fun _ => nofun) (fun _ => nofun)
      · exact Engine.toMark?_next may (fun _ => nofun) (fun _ => nofun) (fun _ _ => nofun) _

end Moves

end Interleaving

end IncidentWatch

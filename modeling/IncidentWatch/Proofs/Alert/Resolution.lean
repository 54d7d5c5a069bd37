import IncidentWatch.Proofs.Alert.Announcement
import IncidentWatch.Proofs.Interleaving.Guarantees

/-!
# Announcing resolutions

A sweep that resolves a critical incident owes an announcement of it (`Stage.owed?`), and
asks the notifier for it before it turns to anything else. Nothing else announces a
resolution. So where no sweep is cut off, every resolved critical incident was announced as
such by one delivery, in the sweep that resolved it, and that stays the only one, whether
the notifier accepted it or not (`resolution_is_announced_once`).
-/

set_option autoImplicit false

namespace IncidentWatch

open Engine (Verdict)

namespace Stage

/-! ## What a sweep owes -/

/-- The critical incident that was resolved and is not announced as such yet. -/
def owed? : Stage → Option Incident
  | .resolved i => if i.severity = .critical then some i else none
  | .judged i .resolved => if i.severity = .critical then some i else none
  | _ => none

variable {stage : Stage}

theorem Filing.owed? (filing : stage.Filing) : stage.owed? = none := by
  cases stage with
  | apart => rfl
  | entered listed => rfl
  | leaving => rfl
  | _ => exact filing.elim

theorem owed?_of_owesNothing (free : stage.OwesNothing) : stage.owed? = none := by
  cases stage with
  | resolved i => exact free.elim
  | judged i verdict => exact free.elim
  | delivered i kind => exact free.elim
  | marking i kind => exact free.elim
  | reread i kind => exact free.elim
  | _ => rfl

end Stage

namespace Engine

open Interleaving (Operation)

variable {e : Engine} {now : Instant} {op : Operation} {stage : Stage} {i j : Incident}
  {verdict : Verdict}

/-- After a verdict with no announcement due, nothing is owed. -/
theorem owed?_of_not_due (nothing : e.announcement? now i verdict = none) :
    (Stage.judged i verdict).owed? = none := by
  cases verdict with
  | resolved =>
      by_cases critical : i.severity = .critical
      · simp [announcement?, critical] at nothing
      · simp [Stage.owed?, critical]
  | _ => rfl

/-- The announcement that is due after a verdict is owed if it is that of a resolution. -/
theorem owed?_of_due {kind : AlertKind} (due : e.announcement? now i verdict = some kind) :
    (Stage.judged i verdict).owed? = if kind = .resolved then some i else none := by
  cases kind with
  | opened =>
      obtain ⟨rfl, -⟩ := announcement?_eq_opened_iff.1 due
      rfl
  | resolved =>
      obtain ⟨rfl, critical⟩ := announcement?_eq_resolved_iff.1 due
      exact if_pos critical

theorem owed?_of_ends (ends : e.Ends op stage) : stage.owed? = none := by
  cases op with
  | batch events now =>
      rw [show stage = .apart from ends]
      rfl
  | sweep now =>
      rcases (show e.Between now stage from ends) with rfl | ⟨i, verdict, rfl, nothing⟩
      · rfl
      · exact owed?_of_not_due nothing

/-- Before an update, nothing is owed. -/
theorem Change.owed?_before (change : e.Change op stage i j) : stage.owed? = none := by
  cases change <;> rfl

end Engine

namespace Stage

variable {stage : Stage}

/-- Only a resolution makes a sweep owe something. -/
theorem owed?_next_eq_none (free : stage.owed? = none) {r : Request}
    (updates : ∀ i, r ≠ .update i) (a : r.Answer) : (stage.next r a).owed? = none := by
  cases r with
  | lock release => cases stage <;> rfl
  | unlock release =>
      cases stage with
      | resolved i => exact free
      | _ => rfl
  | pruneLocks => rfl
  | create i => rfl
  | update i => exact absurd rfl (updates i)
  | read id =>
      cases a with
      | ok i =>
          cases stage with
          | marking j kind => rfl
          | _ =>
              simp only [next, read]
              split <;> rfl
      | error error => cases stage <;> rfl
  | list f p =>
      cases a with
      | ok page => cases stage <;> exact free
      | error error => cases stage <;> rfl
  | rollout namespaceName name limit =>
      cases stage with
      | found i => cases a <;> rfl
      | _ => exact free
  | deliver kind view =>
      cases stage with
      | judged i verdict => cases a <;> rfl
      | _ => exact free
  | _ => exact free

end Stage

namespace Engine

open Interleaving (Operation)

variable {e : Engine} {op : Operation} {stage : Stage}

/-- What is neither an update nor a delivery leaves what is owed. -/
theorem owed?_next {r : Request} (may : e.May op stage r) (updates : ∀ i, r ≠ .update i)
    (delivers : ∀ kind view, r ≠ .deliver kind view) (a : r.Answer) :
    (stage.next r a).owed? = stage.owed? := by
  cases op with
  | batch events now =>
      rw [(filing_next may a).owed?, (filing_of_batchMay may).owed?]
  | sweep now =>
      cases stage with
      | resolved i =>
          -- The resolution is counted and logged, and then the lock is given back.
          cases r with
          | measure metric => rfl
          | log line => rfl
          | unlock release => rfl
          | _ => exact may.elim
      | judged i verdict =>
          rcases asks_of_judged may with ⟨kind, -, same⟩ | ⟨nothing, -⟩
          · exact absurd same (delivers kind i.view)
          · have free := owed?_of_not_due nothing
            rw [free, Stage.owed?_next_eq_none free updates a]
      | _ => exact Stage.owed?_next_eq_none rfl updates a

end Engine

namespace Interleaving

open IncidentWatch.Interleaving.System

variable {e : Engine} {s s' : System} {t u : Nat} {task : Task} {id : String}

/-! ## Notices -/

/-- When the incident of an id was resolved, if it is a critical one. -/
def resolution? (store : Store) (id : String) : Option Instant :=
  (store.get? id).bind fun i => if i.severity = .critical then i.resolvedTime else none

/-- An operation owes the announcement of the incident of an id. -/
def Owes (history : List Entry) (t : Nat) (id : String) : Prop :=
  ∃ i, (stageOf t history).owed? = some i ∧ i.id = id

/-- What the history has of the resolution of an incident: nothing as long as it is not resolved as
a critical one, and then one announcement, which the sweep that resolved it either owes or has
made. -/
inductive Noticed (history : List Entry) (id : String) : Option Instant → Prop
  | unresolved (silent : announcements .resolved id history = [])
      (nobody : ∀ t, ¬ Owes history t id) : Noticed history id none
  | owed {t : Nat} {now : Instant} (silent : announcements .resolved id history = [])
      (owes : Owes history t id) (begun : operationOf t history = some (.sweep now))
      (alone : ∀ u, Owes history u id → u = t) : Noticed history id (some now)
  | made {now : Instant} {accepted : Bool}
      (once : announcements .resolved id history = [⟨now, accepted⟩])
      (nobody : ∀ t, ¬ Owes history t id) : Noticed history id (some now)

theorem Noticed.of_same {history history' : List Entry} {resolved : Option Instant}
    (noticed : Noticed history id resolved)
    (same : announcements .resolved id history' = announcements .resolved id history)
    (owes : ∀ u, Owes history' u id ↔ Owes history u id)
    (begun : ∀ u, Owes history u id → operationOf u history' = operationOf u history) :
    Noticed history' id resolved := by
  cases noticed with
  | unresolved silent nobody =>
      exact .unresolved (same.trans silent) fun u owing => nobody u ((owes u).1 owing)
  | owed silent owing sweeps alone =>
      exact .owed (same.trans silent) ((owes _).2 owing) ((begun _ owing).trans sweeps)
        fun u also => alone u ((owes u).1 also)
  | made once nobody =>
      exact .made (same.trans once) fun u owing => nobody u ((owes u).1 owing)

theorem owes_of_other {what : Happening} {earlier : List Entry} (apart : u ≠ t) :
    Owes (⟨t, what⟩ :: earlier) u id ↔ Owes earlier u id := by
  unfold Owes
  rw [stageOf_of_other apart]

theorem not_owes {history : List Entry} (free : (stageOf t history).owed? = none) :
    ¬ Owes history t id := by
  rintro ⟨i, owed, -⟩
  rw [free] at owed
  cases owed

/-- An entry about whoever owes nothing of an incident, before or after it. -/
theorem Noticed.entry {what : Happening} {earlier : List Entry} {resolved : Option Instant}
    (noticed : Noticed earlier id resolved)
    (same : announcements .resolved id (⟨t, what⟩ :: earlier) =
      announcements .resolved id earlier)
    (before : ¬ Owes earlier t id) (after : ¬ Owes (⟨t, what⟩ :: earlier) t id) :
    Noticed (⟨t, what⟩ :: earlier) id resolved := by
  refine noticed.of_same same (fun u => ?_) fun u owing => ?_
  · by_cases apart : u ≠ t
    · exact owes_of_other apart
    · obtain rfl := not_not.1 apart
      exact ⟨fun owing => absurd owing after, fun owing => absurd owing before⟩
  · have apart : u ≠ t := by
      rintro rfl
      exact before owing
    exact operationOf_of_other apart

/-- Operations that begin or end owe nothing. -/
theorem Noticed.note {what : Happening} {earlier : List Entry} {resolved : Option Instant}
    (noticed : Noticed earlier id resolved) (leaves : ∀ r a, what ≠ .answered r a)
    (free : (stageOf t earlier).owed? = none) : Noticed (⟨t, what⟩ :: earlier) id resolved := by
  refine noticed.entry (announcements_noted leaves) (not_owes free) (not_owes ?_)
  rw [stageOf_noted leaves]
  rfl

/-- An answer that makes no difference to what is owed, and is none to an announcement. -/
theorem Noticed.answered {r : Request} {a : r.Answer} {earlier : List Entry}
    {resolved : Option Instant} (noticed : Noticed earlier id resolved)
    (delivers : ∀ kind view, r ≠ .deliver kind view)
    (same : ((stageOf t earlier).next r a).owed? = (stageOf t earlier).owed?) :
    Noticed (⟨t, .answered r a⟩ :: earlier) id resolved := by
  refine noticed.of_same (announcements_answered delivers) (fun u => ?_) fun u owing => ?_
  · by_cases apart : u ≠ t
    · exact owes_of_other apart
    · obtain rfl := not_not.1 apart
      unfold Owes
      rw [stageOf_answered, same]
  · by_cases apart : u ≠ t
    · exact operationOf_of_other apart
    · obtain rfl := not_not.1 apart
      exact operationOf_answered

/-- What nobody owes was announced. -/
theorem Noticed.once {history : List Entry} {now : Instant}
    (noticed : Noticed history id (some now))
    (nobody : ∀ t, ¬ Owes history t id) :
    ∃ accepted, announcements .resolved id history = [⟨now, accepted⟩] := by
  cases noticed with
  | owed silent owing begun alone => exact absurd owing (nobody _)
  | made once nobody' => exact ⟨_, once⟩

/-- What was announced is not announced again. -/
theorem Noticed.stays {history : List Entry} {now : Instant} {announcement : Announcement}
    (noticed : Noticed history id (some now))
    (kept : [announcement] <:+ announcements .resolved id history) :
    announcements .resolved id history = [announcement] := by
  cases noticed with
  | owed silent owing begun alone =>
      rw [silent] at kept
      exact absurd (List.suffix_nil.1 kept) (List.cons_ne_nil _ _)
  | made once nobody =>
      rw [once] at kept ⊢
      exact (kept.eq_of_length rfl).symm

/-! ## What the store says of resolutions -/

theorem resolution?_of_stored {store : Store} {i : Incident} (found : store.get? i.id = some i) :
    resolution? store i.id = if i.severity = .critical then i.resolvedTime else none := by
  simp [resolution?, found]

theorem resolution?_create {store : Store} {i : Incident} (created : s.store.create i = .ok store)
    (unresolved : i.resolvedTime = none) : resolution? store id = resolution? s.store id := by
  unfold resolution?
  rw [Store.get?_create created]
  split
  · rename_i same
    rw [same, Store.get?_of_create created]
    simp [unresolved]
  · rfl

theorem resolution?_update {store : Store} {i j : Incident} (updated : s.store.update j = .ok store)
    (stored : s.store.get? j.id = some i) (severity : j.severity = i.severity)
    (resolvedTime : j.resolvedTime = i.resolvedTime) :
    resolution? store id = resolution? s.store id := by
  unfold resolution?
  rw [Store.get?_update updated]
  split
  · rename_i same
    rw [same, stored]
    simp [severity, resolvedTime]
  · rfl

/-! ## Answers -/

section Answered

variable (standing : Standing e s) (noticed : ∀ id, Noticed s.history id (resolution? s.store id))
include standing noticed

/-- An active incident is resolved. If it is a critical one, its announcement is owed. -/
theorem noticed_resolved {i : Incident} {now : Instant} {store : Store}
    (here : s.tasks t = some task) (sweeps : task.operation = .sweep now)
    (stored : s.store.get? i.id = some i)
    (updated : s.store.update (i.resolvedAt now) = .ok store)
    (live : (stageOf t s.history).live? = some i)
    (before : (stageOf t s.history).owed? = none)
    (reached : (stageOf t s.history).updated (i.resolvedAt now) = .resolved (i.resolvedAt now)) :
    Noticed (⟨t, .answered (.update (i.resolvedAt now)) (.ok ())⟩ :: s.history) id
      (resolution? store id) := by
  have after : stageOf t (⟨t, .answered (.update (i.resolvedAt now)) (.ok ())⟩ :: s.history) =
      .resolved (i.resolvedAt now) := stageOf_answered.trans reached
  have consistent : Consistent e s.toSituation := standing.steady.inv
  have open' : i.resolvedTime = none := by
    have sound := consistent.sound i (Store.get?_eq_some_iff.1 stored).1
    have active := (standing.grounded t).live i live
    cases time : i.resolvedTime with
    | none => rfl
    | some past =>
        rw [sound.resolvedTime.1 (by rw [time]; rfl)] at active
        cases active
  have silent : announcements .resolved id
      (⟨t, .answered (.update (i.resolvedAt now)) (.ok ())⟩ :: s.history) =
        announcements .resolved id s.history := announcements_answered fun _ _ => nofun
  by_cases concerned : id = i.id ∧ i.severity = .critical
  · obtain ⟨rfl, critical⟩ := concerned
    have was : resolution? s.store i.id = none := by simp [resolution?, stored, open']
    have is : resolution? store i.id = some now := by
      have found : store.get? i.id = some (i.resolvedAt now) := by
        rw [Store.get?_update updated]
        exact if_pos rfl
      simp [resolution?, found, Incident.resolvedAt, critical]
    have notice := noticed i.id
    rw [was] at notice
    rw [is]
    cases notice with
    | unresolved none' nobody =>
        refine .owed (t := t) (silent.trans none') ⟨i.resolvedAt now, ?_, rfl⟩ ?_ ?_
        · rw [after]
          exact if_pos critical
        · rw [operationOf_answered, (standing.onCourse t).begun task here, sweeps]
        · intro u owing
          by_contra apart
          exact nobody u ((owes_of_other apart).1 owing)
  · have unchanged : resolution? store id = resolution? s.store id := by
      unfold resolution?
      rw [Store.get?_update updated]
      split
      · rename_i same
        have same' : id = i.id := same
        have normal : i.severity ≠ .critical := fun critical => concerned ⟨same', critical⟩
        rw [same', stored]
        simp [Incident.resolvedAt, normal]
      · rfl
    rw [unchanged]
    refine (noticed id).entry silent (not_owes before) ?_
    rintro ⟨j, owed, same⟩
    rw [after] at owed
    simp only [Stage.owed?] at owed
    split at owed
    · rename_i critical
      cases owed
      exact concerned ⟨same.symm, critical⟩
    · cases owed

/-- A record changes. -/
theorem noticed_changed {i j : Incident} {store : Store} (here : s.tasks t = some task)
    (stored : s.store.get? j.id = some i) (updated : s.store.update j = .ok store)
    (change : e.Change task.operation (stageOf t s.history) i j) :
    Noticed (⟨t, .answered (.update j) (.ok ())⟩ :: s.history) id (resolution? store id) := by
  -- Only a resolution makes a difference.
  have keeps : j.severity = i.severity → j.resolvedTime = i.resolvedTime →
      ((stageOf t s.history).updated j).owed? = none →
      Noticed (⟨t, .answered (.update j) (.ok ())⟩ :: s.history) id (resolution? store id) := by
    intro severity resolvedTime free
    rw [resolution?_update updated stored severity resolvedTime]
    refine (noticed id).answered (fun _ _ => nofun) ?_
    rw [change.owed?_before]
    exact free
  have sameId := change.id
  have free := change.owed?_before
  generalize op : task.operation = operation at change
  generalize reached : stageOf t s.history = stage at change keeps free
  cases change with
  | merged among isCandidate =>
      obtain ⟨scope, same⟩ := i.merge_eq _ _ _
      rw [same] at keeps ⊢
      exact keeps rfl rfl rfl
  | counted probes counts =>
      cases counts with
      | failing ill => exact keeps rfl rfl rfl
      | healthy well retries counted => exact keeps rfl rfl rfl
  | marked => exact keeps rfl rfl rfl
  | settled spared quiet =>
      exact noticed_resolved standing noticed here op stored updated (by rw [reached]; rfl)
        (by rw [reached]; rfl) (by rw [reached]; rfl)
  | recovered probes recovered =>
      exact noticed_resolved standing noticed here op stored updated (by rw [reached]; rfl)
        (by rw [reached]; rfl) (by rw [reached]; rfl)
  | givenUp quiet =>
      exact noticed_resolved standing noticed here op stored updated (by rw [reached]; rfl)
        (by rw [reached]; rfl) (by rw [reached]; rfl)

/-- The notifier has answered. -/
theorem noticed_delivered {kind : AlertKind} {view : IncidentView} {answer : Except String Unit}
    (here : s.tasks t = some task)
    (may : e.May task.operation (stageOf t s.history) (.deliver kind view)) :
    Noticed (⟨t, .answered (.deliver kind view) answer⟩ :: s.history) id
      (resolution? s.store id) := by
  have begun := (standing.onCourse t).begun task here
  cases op : task.operation with
  | batch events now =>
      rw [op] at may
      cases stage : stageOf t s.history <;> rw [stage] at may <;> exact may.elim
  | sweep now =>
      rw [op] at may begun
      obtain ⟨i, verdict, judged, due, rfl⟩ := Engine.deliver_of_sweepMay may
      have after : (stageOf t (⟨t, .answered (.deliver kind i.view) answer⟩ :: s.history)).owed? =
          none := by
        rw [stageOf_answered, judged]
        cases answer <;> rfl
      by_cases concerned : kind = .resolved ∧ i.id = id
      · obtain ⟨rfl, rfl⟩ := concerned
        have owes : Owes s.history t i.id := by
          refine ⟨i, ?_, rfl⟩
          rw [judged, Engine.owed?_of_due due]
          rfl
        have notice := noticed i.id
        generalize resolution? s.store i.id = resolved at notice ⊢
        cases notice with
        | unresolved silent nobody => exact absurd owes (nobody t)
        | made once nobody => exact absurd owes (nobody t)
        | @owed u now' silent owing sweeps alone =>
            obtain rfl := alone t owes
            rw [begun] at sweeps
            cases sweeps
            have told : announcements .resolved i.view.id
                (⟨t, .answered (.deliver .resolved i.view) answer⟩ :: s.history) = _ :=
              announcements_delivered begun
            rw [show i.view.id = i.id from rfl, silent] at told
            refine .made told fun u owing => ?_
            by_cases apart : u ≠ t
            · exact apart (alone u ((owes_of_other apart).1 owing))
            · obtain rfl := not_not.1 apart
              exact not_owes after owing
      · have other : kind ≠ .resolved ∨ i.view.id ≠ id := by
          by_contra both
          rw [not_or, not_not, not_not] at both
          exact concerned both
        refine (noticed id).entry (announcements_delivered_other other) ?_ (not_owes after)
        rintro ⟨j, owed, same⟩
        rw [judged, Engine.owed?_of_due due] at owed
        split at owed
        · rename_i resolved
          cases owed
          exact concerned ⟨resolved, same⟩
        · cases owed

theorem noticed_answered {r : Request} {next : r.Answer → Program Outcome} {c : Collaborators}
    {a : r.Answer} {store : Store} (here : s.tasks t = some task) (asks : task.rest = .ask r next)
    (served : serve c s.store r = some (a, store)) :
    Noticed (⟨t, .answered r a⟩ :: s.history) id (resolution? store id) := by
  have may := (standing.onCourse t).may here asks
  cases r with
  | create i =>
      have still : ((stageOf t s.history).next (.create i) a).owed? =
          (stageOf t s.history).owed? := Engine.owed?_next may (fun _ => nofun) (fun _ _ => nofun) a
      rcases serve_create served with ⟨rfl, created⟩ | ⟨error, rfl, rfl⟩
      · obtain ⟨events, now, -, owner, -, id', ids, object, -, rfl⟩ := Engine.candidate_of_may may
        rw [resolution?_create created rfl]
        exact (noticed id).answered (fun _ _ => nofun) still
      · exact (noticed id).answered (fun _ _ => nofun) still
  | update j =>
      rcases serve_update served with ⟨rfl, updated⟩ | ⟨error, rfl, rfl⟩
      · obtain ⟨i, stored, -, change⟩ := standing.change here asks
        exact noticed_changed standing noticed here stored updated change
      · obtain ⟨i, -, -, change⟩ := standing.change here asks
        refine (noticed id).answered (fun _ _ => nofun) ?_
        rw [change.owed?_before]
        cases stageOf t s.history <;> rfl
  | deliver kind view =>
      obtain rfl := store_of_reads served (fun _ => nofun) (fun _ => nofun)
      exact noticed_delivered standing noticed here may
  | _ =>
      obtain rfl := store_of_reads served (fun _ => nofun) (fun _ => nofun)
      exact (noticed id).answered (fun _ _ => nofun)
        (Engine.owed?_next may (fun _ => nofun) (fun _ _ => nofun) a)

end Answered

/-! ## Runs -/

theorem noticed_move (standing : Standing e s)
    (noticed : ∀ id, Noticed s.history id (resolution? s.store id)) (move : Move e s t s')
    (free : s'.history = ⟨t, .stopped⟩ :: s.history → (stageOf t s.history).OwesNothing)
    (id : String) : Noticed s'.history id (resolution? s'.store id) := by
  cases move with
  | begun op =>
      refine (noticed id).note (fun _ _ => nofun) ?_
      rw [(standing.onCourse s.begun).idle (standing.steady.unbegun s.begun (Nat.le_refl _))]
      rfl
  | queued here asks new => exact noticed id
  | answered here asks granted served => exact noticed_answered standing noticed here asks served
  | ended here finished =>
      refine (noticed id).note (fun _ _ => nofun) ?_
      exact Engine.owed?_of_ends (ends_of_done standing here finished)
  | stopped here =>
      exact (noticed id).note (fun _ _ => nofun) (Stage.owed?_of_owesNothing (free rfl))

/-- As long as no sweep is cut off, what the history has of a resolution agrees with the store. -/
theorem noticed_after (e : Engine) (schedule : List Turn) (uncut : Keeps e Uncut {} schedule)
    (id : String) :
    Noticed (after e schedule).history id (resolution? (after e schedule).store id) := by
  revert id
  refine after_keeping (P := fun s => ∀ id, Noticed s.history id (resolution? s.store id)) ?_ ?_
    schedule uncut
  · exact fun id => .unresolved rfl fun t => not_owes rfl
  · intro earlier turn noticed allowed
    have standing := standing_after e earlier
    rcases step_cases e (after e earlier) turn with same | ⟨t, move⟩
    · rw [same]
      exact noticed
    · exact noticed_move standing noticed move (owesNothing_of_stopped standing allowed)

/-- Whenever no sweep is under way, a resolved critical incident was announced as such once, at its
resolution, and whatever happens later, also if that was refused, it never is again. No other
incident was. -/
theorem resolution_is_announced_once (e : Engine) (schedule later : List Turn)
    (uncut : Keeps e Uncut {} (schedule ++ later)) (resting : (after e schedule).Resting)
    (i : Incident) (stored : i ∈ (after e schedule).store.incidents) :
    (i.status = .resolved ∧ i.severity = .critical → ∃ now accepted, i.resolvedTime = some now ∧
      announcements .resolved i.id (after e schedule).history = [⟨now, accepted⟩] ∧
      announcements .resolved i.id (after e (schedule ++ later)).history = [⟨now, accepted⟩]) ∧
    (¬ (i.status = .resolved ∧ i.severity = .critical) →
      announcements .resolved i.id (after e schedule).history = []) := by
  have standing := standing_after e schedule
  have notice := noticed_after e schedule (keeps_append.1 uncut).1 i.id
  have consistent : Consistent e (after e schedule).toSituation := standing.steady.inv
  have time := (consistent.sound i stored).resolvedTime
  have nobody : ∀ t, ¬ Owes (after e schedule).history t i.id := fun t =>
    not_owes (filing_of_resting standing resting t).owed?
  have found := Store.get?_of_mem stored
  rw [resolution?_of_stored found] at notice
  constructor
  · rintro ⟨closed, critical⟩
    obtain ⟨now, resolved⟩ := Option.isSome_iff_exists.1 (time.2 closed)
    rw [if_pos critical, resolved] at notice
    obtain ⟨accepted, once⟩ := notice.once nobody
    refine ⟨now, accepted, resolved, once, ?_⟩
    -- The record is frozen, so the later history has one announcement as well.
    obtain ⟨j, foundLater, evolves⟩ := (grows_after e schedule later).get? found
    have frozen := evolves.resolved closed
    have noticeLater := noticed_after e (schedule ++ later) uncut j.id
    rw [resolution?_of_stored (evolves.id ▸ foundLater), frozen] at noticeLater
    dsimp only at noticeLater
    rw [if_pos critical, resolved] at noticeLater
    apply noticeLater.stays
    rw [← once]
    exact announcements_suffix .resolved i.id (history_suffix e schedule later)
  · intro other
    have never : (if i.severity = .critical then i.resolvedTime else none) = none := by
      split
      · rename_i critical
        rw [← Option.not_isSome_iff_eq_none]
        exact fun resolved => other ⟨time.1 resolved, critical⟩
      · rfl
    rw [never] at notice
    cases notice with
    | unresolved silent none' => exact silent

/-- A sweep resolves a critical incident, and the notifier refuses to announce it. -/
def refusedResolution : List Turn :=
  Sample.running 0 (.batch [Sample.event "web-0" "OOMKilled"] .epoch) "a" 14
    ++ Sample.runningWith Sample.refusing 1 (.sweep Sample.settled) 15

/-- A sweep that finds a notifier which accepts everything. -/
def sweepAfterRefusal : List Turn :=
  Sample.running 2 (.sweep (Sample.afterSeconds 82860)) "" 5

theorem resolution_is_announced_once_refused :
    Keeps Sample.engine Uncut {} (refusedResolution ++ sweepAfterRefusal) ∧
      (after Sample.engine refusedResolution).Resting ∧
      ∃ i, (after Sample.engine refusedResolution).store.get? "a" = some i ∧
        i.status = .resolved ∧ i.severity = .critical ∧
        announcements .resolved "a"
          (after Sample.engine (refusedResolution ++ sweepAfterRefusal)).history =
            announcements .resolved "a" (after Sample.engine refusedResolution).history := by
  have uncut : Keeps Sample.engine Uncut {} (refusedResolution ++ sweepAfterRefusal) := by
    decide +kernel
  have resting : (after Sample.engine refusedResolution).Resting := by decide +kernel
  have fields : ((after Sample.engine refusedResolution).store.get? "a").map
      (fun i => (i.id, i.status, i.severity)) = some ("a", .resolved, .critical) := by
    decide +kernel
  obtain ⟨i, stored, same⟩ := Option.map_eq_some_iff.1 fields
  simp only [Prod.mk.injEq] at same
  obtain ⟨id, closed, critical⟩ := same
  obtain ⟨now, accepted, -, before, later⟩ :=
    (resolution_is_announced_once Sample.engine refusedResolution sweepAfterRefusal uncut resting i
      (Store.get?_eq_some_iff.1 stored).1).1 ⟨closed, critical⟩
  rw [id] at before later
  exact ⟨uncut, resting, i, stored, closed, critical, later.trans before.symm⟩

/-- The sweeps that ended well, with their instants. -/
def finishedSweeps (history : List Entry) : List Instant :=
  history.filterMap fun entry =>
    match entry.what with
    | .ended (.sweep now) (.sweep (.ok _)) => some now
    | _ => none

/-- A sweep during which the notifier accepts everything ends well, and the resolution of a critical
incident is still not announced. -/
theorem refused_resolution_stays_unannounced :
    finishedSweeps (after Sample.engine (refusedResolution ++ sweepAfterRefusal)).history =
        [Sample.afterSeconds 82860, Sample.settled] ∧
      ((after Sample.engine (refusedResolution ++ sweepAfterRefusal)).store.get? "a").map
        (fun i => (i.status, i.severity)) = some (.resolved, .critical) ∧
      announcements .resolved "a"
        (after Sample.engine (refusedResolution ++ sweepAfterRefusal)).history =
          [⟨Sample.settled, false⟩] := by
  refine ⟨?_, ?_, ?_⟩
  · decide +kernel
  · decide +kernel
  · decide +kernel

end Interleaving

end IncidentWatch

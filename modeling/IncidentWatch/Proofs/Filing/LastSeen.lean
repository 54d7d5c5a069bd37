import IncidentWatch.Proofs.Filing.Saves
import IncidentWatch.Proofs.Interleaving.Sample

/-!
# When an incident was last seen

An incident was last seen when the latest of its batches says: every batch that is saved
overwrites what the one before it left, whichever of them is of a later instant, and sweeps
leave it alone. So over a schedule it never goes back exactly when the batches were saved in
the order of their instants (`last_seen_follows_the_saves`).

A batch has its instant from the time that it was begun, but is saved only when it gets the
lock. With a clock that never goes back, all is well as long as the batches of an incident
are saved in the order in which they were begun. A batch that was overtaken by a later one
takes the incident back to its own instant (`overtaken_batch_goes_back`).
-/

set_option autoImplicit false

namespace IncidentWatch

namespace Engine

variable {e : Engine}

theorem Change.lastSeen {now : Instant} {stage : Stage} {i j : Incident}
    (change : e.Change (.sweep now) stage i j) : j.lastSeen = i.lastSeen := by
  cases change with
  | counted probes counts => cases counts <;> rfl
  | _ => rfl

/-- An incident was last seen at the instant of its latest batch. -/
def LastSaved (i : Incident) (saves : List Saved) : Prop :=
  saves.head?.map (·.now) = some i.lastSeen

theorem accounts_lastSaved (e : Engine) : e.Accounts LastSaved := by
  refine ⟨?_, ?_, ?_⟩
  · intro b i files
    obtain ⟨-, id, ids, object, -, rfl⟩ := files.isCandidate
    rfl
  · intro b i j saves folds evolves seen
    obtain ⟨candidate, files, target, rfl⟩ := folds
    obtain ⟨scope, same⟩ := target.merge_eq candidate.events b.owner b.now
    rw [LastSaved, same]
    rfl
  · intro now stage i j saves change seen
    rw [LastSaved, change.lastSeen]
    exact seen

end Engine

namespace Interleaving

open IncidentWatch.Interleaving.System

/-! ## The order of the saves -/

/-- Batches were saved in the order of their instants; the latest comes first. -/
def Chronological (saves : List Saved) : Prop :=
  saves.Pairwise fun later earlier => earlier.now ≤ later.now

/-- Further entries add further batches. -/
theorem savedUnder_suffix (id : String) {earlier history : List Entry}
    (grown : earlier <:+ history) : savedUnder id earlier <:+ savedUnder id history := by
  obtain ⟨later, rfl⟩ := grown
  induction later with
  | nil => exact List.suffix_rfl
  | cons entry rest inductionHypothesis =>
      obtain ⟨t, what⟩ := entry
      refine inductionHypothesis.trans ?_
      rw [List.cons_append, savedUnder]
      split
      · exact List.suffix_append _ _
      · exact List.suffix_rfl

section Turns

variable (e : Engine) (schedule : List Turn) (id : String)

/-- A turn saves one batch under an id, or none. -/
theorem savedUnder_turn (turn : Turn) :
    savedUnder id (after e (schedule ++ [turn])).history =
      savedUnder id (after e schedule).history ∨
    ∃ b, savedUnder id (after e (schedule ++ [turn])).history =
      b :: savedUnder id (after e schedule).history := by
  rw [after_append]
  show savedUnder id (step e (after e schedule) turn).history = _ ∨
    ∃ b, savedUnder id (step e (after e schedule) turn).history = _
  rcases step_history e (after e schedule) turn with same | ⟨⟨t, what⟩, grown⟩
  · exact Or.inl (by rw [same])
  · rw [grown, savedUnder]
    split
    · cases saved? t (after e schedule).history with
      | none => exact Or.inl rfl
      | some b => exact Or.inr ⟨b, rfl⟩
    · exact Or.inl rfl

/-- What is stored was last seen at the instant of the batch saved last under its id, and nothing
was saved under an id of which nothing is stored. -/
theorem lastSeen_after :
    ((after e schedule).store.get? id).map (·.lastSeen) =
      (savedUnder id (after e schedule).history).head?.map (·.now) := by
  have accounted := accounted_after e.accounts_lastSaved schedule
  cases found : (after e schedule).store.get? id with
  | none =>
      rw [accounted.unknown id found]
      rfl
  | some i =>
      obtain ⟨member, same⟩ := Store.get?_eq_some_iff.1 found
      have seen := accounted.kept i member
      rw [same] at seen
      exact seen.symm

end Turns

/-- Along a schedule, the incident of an id is never seen to be last seen earlier than before. -/
def NeverGoesBack (e : Engine) (schedule : List Turn) (id : String) : Prop :=
  ∀ earlier later, earlier <+: later → later <+: schedule → ∀ i j,
    (after e earlier).store.get? id = some i → (after e later).store.get? id = some j →
      i.lastSeen ≤ j.lastSeen

section Monotone

variable {e : Engine} {schedule : List Turn} {id : String}

theorem neverGoesBack_of_chronological
    (ordered : Chronological (savedUnder id (after e schedule).history)) :
    NeverGoesBack e schedule id := by
  rintro earlier later ⟨between, rfl⟩ ⟨after', rfl⟩ i j stored stored'
  have seen := lastSeen_after e earlier id
  have seen' := lastSeen_after e (earlier ++ between) id
  rw [stored, Option.map_some] at seen
  rw [stored', Option.map_some] at seen'
  obtain ⟨b, before, same⟩ := Option.map_eq_some_iff.1 seen.symm
  obtain ⟨b', before', same'⟩ := Option.map_eq_some_iff.1 seen'.symm
  have ordered' := ordered.sublist
    (savedUnder_suffix id (history_suffix e (earlier ++ between) after')).sublist
  have grown := savedUnder_suffix id (history_suffix e earlier between)
  rw [← same, ← same']
  cases saves : savedUnder id (after e (earlier ++ between)).history with
  | nil =>
      rw [saves] at before'
      cases before'
  | cons latest rest =>
      rw [saves] at before' ordered' grown
      cases before'
      rcases List.mem_cons.1 (grown.subset (List.mem_of_head? before)) with rfl | among
      · exact Instant.le_refl _
      · exact List.rel_of_pairwise_cons ordered' among

theorem chronological_of_neverGoesBack (keeps : NeverGoesBack e schedule id) :
    Chronological (savedUnder id (after e schedule).history) := by
  induction schedule using List.reverseRecOn with
  | nil => exact List.Pairwise.nil
  | append_singleton schedule turn inductionHypothesis =>
      have ordered := inductionHypothesis fun earlier later first second =>
        keeps earlier later first (second.trans (List.prefix_append _ _))
      rcases savedUnder_turn e schedule id turn with same | ⟨b, new⟩
      · rw [same]
        exact ordered
      · have seen := lastSeen_after e schedule id
        have seen' := lastSeen_after e (schedule ++ [turn]) id
        rw [new] at seen' ⊢
        obtain ⟨j, stored', same'⟩ := Option.map_eq_some_iff.1 seen'
        cases saves : savedUnder id (after e schedule).history with
        | nil => exact List.pairwise_singleton _ _
        | cons latest rest =>
            rw [saves] at seen ordered
            obtain ⟨i, stored, same⟩ := Option.map_eq_some_iff.1 seen
            -- The latest batch before the turn is the one that the incident was last seen at.
            have order : latest.now ≤ b.now := by
              have order := keeps schedule (schedule ++ [turn]) (List.prefix_append _ _)
                List.prefix_rfl i j stored stored'
              rwa [same, same'] at order
            refine List.Pairwise.cons (fun a among => ?_) ordered
            rcases List.mem_cons.1 among with rfl | before
            · exact order
            · exact Instant.le_trans (List.rel_of_pairwise_cons ordered before) order

end Monotone

/-! ## The order in which batches are begun -/

/-- The batches that were begun, with their instants, latest first. -/
def begunBatches (history : List Entry) : List (Nat × Instant) :=
  history.filterMap fun entry =>
    match entry.what with
    | .begun (.batch _ now) => some (entry.task, now)
    | _ => none

/-- The instants of the batches were told by a clock that never went back. -/
def Clocked (history : List Entry) : Prop :=
  (begunBatches history).Pairwise fun later earlier => earlier.2 ≤ later.2

/-- The numbers of the batches that were saved under an id, with the batches, latest first. -/
def numberedSaves (id : String) : List Entry → List (Nat × Saved)
  | [] => []
  | ⟨t, what⟩ :: earlier =>
    if what.written?.any (·.id = id) then
      (saved? t earlier).toList.map (t, ·) ++ numberedSaves id earlier
    else numberedSaves id earlier

theorem map_numberedSaves (id : String) (history : List Entry) :
    (numberedSaves id history).map (·.2) = savedUnder id history := by
  induction history with
  | nil => rfl
  | cons entry earlier inductionHypothesis =>
      obtain ⟨t, what⟩ := entry
      unfold numberedSaves savedUnder
      split
      · rw [List.map_append, inductionHypothesis, List.map_map]
        exact congrArg (· ++ _) (List.map_id _)
      · exact inductionHypothesis

theorem begunBatches_mono {entry : Entry} {earlier : List Entry} :
    begunBatches earlier ⊆ begunBatches (entry :: earlier) := by
  unfold begunBatches
  rw [List.filterMap_cons]
  split
  · exact List.Subset.refl _
  · exact List.subset_cons_self _ _

theorem mem_begunBatches_of_operationOf {t : Nat} {events : List Event} {now : Instant}
    {history : List Entry} (begun : operationOf t history = some (.batch events now)) :
    (t, now) ∈ begunBatches history := by
  induction history with
  | nil => cases begun
  | cons entry earlier inductionHypothesis =>
      obtain ⟨u, what⟩ := entry
      unfold operationOf at begun
      split at begun
      · rename_i same
        cases what with
        | begun op =>
            cases begun
            exact List.mem_filterMap.2 ⟨_, List.mem_cons_self, by rw [← same]⟩
        | _ => exact begunBatches_mono (inductionHypothesis begun)
      · exact begunBatches_mono (inductionHypothesis begun)

/-- Whatever was saved was saved by a batch that was begun at its instant. -/
theorem mem_begunBatches_of_saved {id : String} {history : List Entry} {saved : Nat × Saved}
    (member : saved ∈ numberedSaves id history) :
    (saved.1, saved.2.now) ∈ begunBatches history := by
  induction history with
  | nil => cases member
  | cons entry earlier inductionHypothesis =>
      obtain ⟨t, what⟩ := entry
      refine begunBatches_mono ?_
      unfold numberedSaves at member
      split at member
      · rcases List.mem_append.1 member with here | before
        · obtain ⟨b, saves, rfl⟩ := List.mem_map.1 here
          exact mem_begunBatches_of_operationOf (operationOf_saved? (Option.mem_toList.1 saves))
        · exact inductionHypothesis before
      · exact inductionHypothesis member

/-- Batches are numbered in the order in which they are begun. -/
theorem numbered_after (e : Engine) (schedule : List Turn) :
    (begunBatches (after e schedule).history).Pairwise
      fun later earlier => earlier.1 < later.1 := by
  suffices numbered : ∀ schedule,
      (∀ b ∈ begunBatches (after e schedule).history, b.1 < (after e schedule).begun) ∧
        (begunBatches (after e schedule).history).Pairwise fun later earlier => earlier.1 < later.1
    from (numbered schedule).2
  refine after_moves (P := fun s => (∀ b ∈ begunBatches s.history, b.1 < s.begun) ∧
    (begunBatches s.history).Pairwise fun later earlier => earlier.1 < later.1) ?_ ?_
  · refine ⟨fun b member => ?_, List.Pairwise.nil⟩
    cases member
  · rintro earlier t s' ⟨bounded, numbered⟩ move
    cases move with
    | begun op =>
        have later := fun b member => Nat.lt_succ_of_lt (bounded b member)
        cases op with
        | batch events now =>
            exact ⟨List.forall_mem_cons.2 ⟨Nat.lt_succ_self _, later⟩,
              List.Pairwise.cons bounded numbered⟩
        | sweep now => exact ⟨later, numbered⟩
    | _ => exact ⟨bounded, numbered⟩

section Clock

variable {e : Engine} {schedule : List Turn} {id : String}

/-- Of two batches, the one that was begun later is of the later instant. -/
theorem now_le_of_clocked (clocked : Clocked (after e schedule).history) {a b : Nat × Instant}
    (begun : a ∈ begunBatches (after e schedule).history)
    (begun' : b ∈ begunBatches (after e schedule).history) (order : a.1 ≤ b.1) : a.2 ≤ b.2 := by
  obtain ⟨m, bound, rfl⟩ := List.getElem_of_mem begun
  obtain ⟨n, bound', rfl⟩ := List.getElem_of_mem begun'
  rcases Nat.lt_trichotomy m n with before | rfl | behind
  · have numbered := List.pairwise_iff_getElem.1 (numbered_after e schedule) m n bound bound' before
    omega
  · exact Instant.le_refl _
  · exact List.pairwise_iff_getElem.1 clocked n m bound' bound behind

theorem chronological_of_clocked (clocked : Clocked (after e schedule).history)
    (ordered : (numberedSaves id (after e schedule).history).Pairwise
      fun later earlier => earlier.1 ≤ later.1) :
    Chronological (savedUnder id (after e schedule).history) := by
  unfold Chronological
  rw [← map_numberedSaves, List.pairwise_map]
  refine ordered.imp_of_mem fun later earlier order => ?_
  exact now_le_of_clocked clocked (mem_begunBatches_of_saved earlier)
    (mem_begunBatches_of_saved later) order

end Clock

/-- What is stored was last seen at the instant of the batch that was saved last under its id. So it
never goes back exactly when the batches were saved in the order of their instants; with a clock
that never goes back, they are if they were saved in the order in which they were begun. -/
theorem last_seen_follows_the_saves (e : Engine) (schedule : List Turn) (id : String) :
    (∀ i, (after e schedule).store.get? id = some i → ∃ latest earlier,
      savedUnder id (after e schedule).history = latest :: earlier ∧ i.lastSeen = latest.now) ∧
    (NeverGoesBack e schedule id ↔
      (savedUnder id (after e schedule).history).Pairwise
        fun later earlier => earlier.now ≤ later.now) ∧
    (Clocked (after e schedule).history →
      (numberedSaves id (after e schedule).history).Pairwise
        (fun later earlier => earlier.1 ≤ later.1) →
      NeverGoesBack e schedule id) := by
  refine ⟨fun i stored => ?_, ⟨chronological_of_neverGoesBack, neverGoesBack_of_chronological⟩,
    fun clocked ordered => ?_⟩
  · have seen := lastSeen_after e schedule id
    rw [stored, Option.map_some] at seen
    obtain ⟨latest, head, same⟩ := Option.map_eq_some_iff.1 seen.symm
    obtain ⟨earlier, saves⟩ := List.head?_eq_some_iff.1 head
    exact ⟨latest, earlier, saves, same.symm⟩
  · exact neverGoesBack_of_chronological (chronological_of_clocked clocked ordered)

/-- An incident is created, and two batches are begun that will be merged into it. -/
def twoUnderWay : List Turn :=
  Sample.running 0 (.batch [Sample.event "web-0" "OOMKilled"] .epoch) "a" 14 ++
    [.begin (.batch [Sample.event "web-0" "OOMKilled"] (Sample.afterSeconds 60)),
      .begin (.batch [Sample.event "web-1" "OOMKilled"] (Sample.afterSeconds 65))]

/-- The batches are saved in the order in which they were begun, one held up by the other. -/
def savedInTurn : List Turn :=
  twoUnderWay ++ Sample.going 1 "b" 6 ++ Sample.going 2 "c" 9 ++ Sample.going 1 "b" 9 ++
    Sample.going 2 "c" 9

theorem last_seen_follows_the_saves_in_turn :
    ((after Sample.engine savedInTurn).store.get? "a").map (·.lastSeen) =
        some (Sample.afterSeconds 65) ∧
      NeverGoesBack Sample.engine savedInTurn "a" := by
  have record : ((after Sample.engine savedInTurn).store.get? "a").map (·.lastSeen) =
      some (Sample.afterSeconds 65) := by decide +kernel
  have clocked : Clocked (after Sample.engine savedInTurn).history := by
    unfold Clocked
    decide +kernel
  have ordered : ((numberedSaves "a" (after Sample.engine savedInTurn).history).map (·.1)).Pairwise
      fun later earlier => earlier ≤ later := by decide +kernel
  exact ⟨record, (last_seen_follows_the_saves Sample.engine savedInTurn "a").2.2 clocked
    (List.pairwise_map.1 ordered)⟩

/-- The batch that was begun later is saved first. -/
def overtaken : List Turn :=
  twoUnderWay ++ Sample.going 2 "c" 15 ++ Sample.going 1 "b" 15

/-- The clock never goes back, but the incident does: a batch that was overtaken takes it from the
instant of the later batch back to its own. -/
theorem overtaken_batch_goes_back :
    Clocked (after Sample.engine overtaken).history ∧
      ¬ NeverGoesBack Sample.engine overtaken "a" := by
  constructor
  · unfold Clocked
    decide +kernel
  · intro keeps
    have first : ((after Sample.engine (overtaken.take 32)).store.get? "a").map (·.lastSeen) =
        some (Sample.afterSeconds 65) := by decide +kernel
    have last : ((after Sample.engine overtaken).store.get? "a").map (·.lastSeen) =
        some (Sample.afterSeconds 60) := by decide +kernel
    obtain ⟨i, stored, seen⟩ := Option.map_eq_some_iff.1 first
    obtain ⟨j, stored', seen'⟩ := Option.map_eq_some_iff.1 last
    have order := keeps _ _ (List.take_prefix 32 overtaken) List.prefix_rfl i j stored stored'
    rw [seen, seen'] at order
    exact absurd order (by decide)

end Interleaving

end IncidentWatch

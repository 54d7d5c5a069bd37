import IncidentWatch.Proofs.Interleaving.Rules

/-!
# The engine keeps to the discipline

Function by function, the engine asks only for what custody allows. Detection works
quietly until it saves a candidate; saving looks for a target and writes under the lock
of the release. A sweep examines each listed incident under the lock of its release,
reading it again there, and announces it after the lock was given back.

`obeys_custody` puts the two operations together.
-/

set_option autoImplicit false

namespace IncidentWatch.Interleaving

open Discipline

variable {e : Engine} {t : Nat} {s s' : Situation} {i : Incident} {now : Instant}

/-! ## Candidates -/

theorem quiet_skip (e : Engine) (reason : SkipReason) (event : Option Event) (detail : String) :
    (e.skip reason event detail).Quiet fun outcome => outcome = .skipped reason :=
  ⟨trivial, fun _ => ⟨trivial, fun _ => rfl⟩⟩

theorem quiet_scope (e : Engine) (owner : OwnerRef) (origin : Event) :
    (e.scope owner origin).Quiet fun _ => True := by
  unfold Engine.scope
  cases owner.kind with
  | deployment =>
      refine Program.Quiet.bind (.request trivial) fun answer _ => ?_
      cases answer with
      | ok health =>
          refine Program.Quiet.bind (.checked _) fun failing _ => ?_
          trivial
      | error error => exact ⟨trivial, fun _ => trivial⟩
  | _ => trivial

/-- A candidate is made quietly of the recognised events, with an id for each. -/
theorem quiet_build (e : Engine) (recognized : List ClassifiedEvent) (owner : OwnerRef)
    (origin : Event) (now : Instant) :
    (e.candidate recognized owner origin now).Quiet fun built =>
      ∃ id ids object, ids.length = recognized.length ∧
        built = Candidate.build id ids recognized owner object now := by
  unfold Engine.candidate
  refine Program.Quiet.bind (quiet_scope e owner origin) fun object _ => ?_
  refine Program.Quiet.bind (.request trivial) fun id _ => ?_
  have fresh : ∀ _ : ClassifiedEvent, (Program.request .freshId).Quiet fun _ => True :=
    fun _ => .request trivial
  refine Program.Quiet.bind (.mapM fresh recognized) fun ids enough => ?_
  refine Program.Quiet.bind (.request trivial) fun _ _ => ?_
  exact ⟨id, ids, object, enough, rfl⟩

/-- A candidate is sound and has the keys of the recognised events. -/
theorem quiet_candidate (e : Engine) {recognized : List ClassifiedEvent} (some' : recognized ≠ [])
    (owner : OwnerRef) (origin : Event) (now : Instant) :
    (e.candidate recognized owner origin now).Quiet fun built =>
      built.Sound ∧ ∀ k, k ∈ built.keys ↔ k ∈ recognized.map (·.key) := by
  refine (quiet_build e recognized owner origin now).mono ?_
  rintro built ⟨id, ids, object, enough, rfl⟩
  exact ⟨Candidate.sound_build id owner object now enough some',
    fun k => Candidate.mem_keys_occurrences enough⟩

/-! ## Saving -/

section Saving

variable {node : String} {candidate target : Incident} {owner : OwnerRef}

theorem achieves_saveNew (locked : held t s.history = some candidate.releaseKey)
    (sound : candidate.Sound) (lacks : s.store.Lacks candidate) :
    (custody e).Achieves t (Saving.create node candidate)
      (fun outcome s' => held t s'.history = some candidate.releaseKey ∧
        KeptUnder (.ofSave outcome) candidate.keys s'.store)
      (fun s' => held t s'.history = some candidate.releaseKey) s := by
  unfold Saving.create
  refine achieves_bind (Achieves.mono (achieves_create locked sound lacks) ?_ fun _ left => left)
  rintro _ s₁ _ ⟨still, stored⟩
  refine achieves_quietly (.request trivial) fun _ s₂ _ later => ?_
  refine achieves_quietly (.request trivial) fun _ s₃ _ later' => ?_
  refine achieves_pure ⟨(later.trans later').held.trans still, ?_⟩
  intro id filed
  cases filed
  exact ⟨candidate, (later.trans later').get? still stored, fun _ member => member⟩

theorem achieves_mergeInto (inHand : InHand t s target) (active : target.status = .active)
    (caused : target.primaryCause.isSome = true) (sound : target.Sound) :
    (custody e).Achieves t (Saving.mergeInto node target candidate owner now)
      (fun outcome s' => held t s'.history = some target.releaseKey ∧
        KeptUnder (.ofSave outcome) candidate.keys s'.store)
      (fun s' => held t s'.history = some target.releaseKey) s := by
  unfold Saving.mergeInto
  refine achieves_quietly (.request trivial) fun _ s₁ _ before => ?_
  have evolves := Incident.evolves_merge active caused candidate.events owner now
  have sound' := sound.merge candidate.events owner now
  refine achieves_bind (Achieves.mono
    (achieves_update (inHand.meanwhile before) evolves sound') ?_ fun _ left => left)
  intro _ s₂ _ merged
  refine achieves_quietly (.request trivial) fun _ s₃ _ later => ?_
  refine achieves_quietly (.request trivial) fun _ s₄ _ later' => ?_
  have still := merged.meanwhile (later.trans later')
  refine achieves_pure ⟨evolves.releaseKey ▸ still.locked, ?_⟩
  intro id filed
  cases filed
  exact ⟨_, still.stored, fun k member => Incident.mem_keys_merge.2 (Or.inr member)⟩

/-- A candidate is created only when no active incident of its release has its cause. -/
theorem lacks_of_no_target {store : Store}
    (nothing : Saving.target? (activeOf store candidate.releaseKey) candidate = none) :
    store.Lacks candidate := by
  intro j member active cause first same
  have among : j ∈ activeOf store candidate.releaseKey :=
    List.mem_filter.2 ⟨member, Incident.isActive_iff.2 active⟩
  have missing := List.find?_eq_none.1 nothing j among
  refine missing ?_
  rw [Saving.cause, same]
  exact Incident.hasPrimaryCause_of_primaryCause first

theorem achieves_save {pageSize : UInt64} (sound : candidate.Sound)
    (alone : held t s.history = none) :
    (custody e).Achieves t (Saving.save node pageSize candidate owner now)
      (fun outcome s' => held t s'.history = none ∧
        KeptUnder (.ofSave outcome) candidate.keys s'.store)
      (fun s' => held t s'.history = none) s := by
  refine achieves_underLock (fun outcome => KeptUnder (.ofSave outcome) candidate.keys)
    (fun kept grows => kept.of_evolves grows) alone fun s₁ locked _ => ?_
  refine achieves_bind (Achieves.mono (achieves_listAll_activeFor locked) ?_ fun _ left => left)
  rintro active s₂ consistent ⟨still, rfl, inHand⟩
  split
  · rename_i nothing
    exact achieves_saveNew still sound (lacks_of_no_target nothing)
  · rename_i target found
    have member := List.mem_of_find?_eq_some found
    have caused := List.find?_some found
    obtain ⟨onShelf, active⟩ := List.mem_filter.1 member
    obtain ⟨stored, here⟩ := Store.mem_shelf.1 onShelf
    rw [← here]
    exact achieves_mergeInto (inHand target member) (Incident.isActive_iff.1 active)
      (Incident.primaryCause_isSome caused) (consistent.sound target stored)

end Saving

/-- A batch ends without a lock, and its keys are with the incident that it was filed under. -/
theorem achieves_handleBatch (events : List Event) (now : Instant)
    (alone : held t s.history = none) :
    (custody e).Achieves t (e.handleBatch events now)
      (fun outcome s' =>
        KeptUnder outcome ((e.classified (Engine.counting events)).map (·.key)) s'.store)
      (fun _ => True) s := by
  have skips : ∀ {s} reason event detail, (custody e).Achieves t (e.skip reason event detail)
      (fun outcome s' =>
        KeptUnder outcome ((e.classified (Engine.counting events)).map (·.key)) s'.store)
      (fun _ => True) s := by
    intro s reason event detail
    refine achieves_lift (ensures_of_quiet (quiet_skip e reason event detail) ?_)
    rintro outcome s' rfl _ id filed
    cases filed
  unfold Engine.handleBatch
  refine achieves_quietly (.request trivial) fun _ s₁ _ toFirst => ?_
  split
  · exact skips _ _ _
  · split
    · exact skips _ _ _
    · rename_i first rest counting
      refine achieves_quietly (.request trivial) fun answer s₂ _ toOwner => ?_
      cases answer with
      | error error => exact skips _ _ _
      | ok owner =>
          dsimp only
          split
          · exact skips _ _ _
          · rename_i some'
            refine achieves_quietly (.request trivial) fun _ s₃ _ toCount => ?_
            refine achieves_quietly (quiet_candidate e some' owner first now)
              fun built s₄ candidate toBuilt => ?_
            have alone' : held t s₄.history = none :=
              (((toFirst.trans toOwner).trans toCount).trans toBuilt).held.trans alone
            refine achieves_bind (Achieves.mono (achieves_save candidate.1 alone') ?_
              fun _ _ => trivial)
            rintro saved s₅ _ ⟨-, kept⟩
            refine achieves_pure fun id filed => ?_
            obtain ⟨i, stored, keys⟩ := kept id filed
            refine ⟨i, stored, fun k member => keys k ((candidate.2 k).2 ?_)⟩
            rw [← counting]
            exact member

/-! ## Alerts -/

/-- A mark is stored under the lock of the release, on the record that stands there then. -/
theorem achieves_storeMark (now : Instant) (carries : s.store.Carries i)
    (alone : held t s.history = none) :
    (custody e).Achieves t (Engine.storeMark i now) (fun _ s' => held t s'.history = none)
      (fun s' => held t s'.history = none) s := by
  refine Achieves.mono (achieves_underLock (fun _ _ => True) (fun _ _ => trivial) alone ?_)
    (fun _ _ _ left => left.1) fun _ left => left
  intro s₁ locked grows
  refine achieves_bind (Achieves.mono
    (achieves_read? (carries.of_evolves grows) locked) ?_ fun _ left => left)
  rintro found s₂ consistent ⟨still, inHand⟩
  cases found with
  | none => exact achieves_pure ⟨still, trivial⟩
  | some stored =>
      obtain ⟨evolves, here⟩ := inHand stored rfl
      have sound := consistent.sound stored (Store.get?_eq_some_iff.1 here.stored).1
      refine achieves_bind (Achieves.mono (achieves_update here
        (Incident.evolves_marked stored (some now)) (sound.marked (some now))) ?_ ?_)
      · intro _ s₃ _ marked
        exact achieves_pure ⟨marked.locked.trans (congrArg some evolves.releaseKey), trivial⟩
      · exact fun _ left => left.trans (congrArg some evolves.releaseKey)

theorem ensures_markAlerted {kind : AlertKind} (carries : s.store.Carries i)
    (alone : held t s.history = none) :
    (custody e).Ensures t (e.markAlerted i kind now) (fun _ s' => held t s'.history = none) s := by
  unfold Engine.markAlerted
  refine ensures_bind (Ensures.mono (achieves_storeMark now carries alone) ?_)
  intro result s₁ _ left
  cases result with
  | ok marked =>
      refine ensures_quietly (.request trivial) fun _ s₂ _ later => ?_
      refine ensures_quietly (.request trivial) fun _ s₃ _ later' => ?_
      exact ensures_pure ((later.trans later').held.trans left)
  | error error => exact ensures_pure left

/-- An alert is delivered without a lock, and then marked. -/
theorem ensures_announce {kind : AlertKind} (carries : s.store.Carries i)
    (alone : held t s.history = none) :
    (custody e).Ensures t (e.announce i kind now) (fun _ s' => held t s'.history = none) s := by
  unfold Engine.announce
  refine ensures_bind (ensures_deliver alone fun delivered s₁ later => ?_)
  have alone' := later.held.trans alone
  cases delivered with
  | ok _ => exact ensures_markAlerted (carries.of_evolves later.grows) alone'
  | error text =>
      refine ensures_quietly (.request trivial) fun _ s₂ _ toCount => ?_
      refine ensures_quietly (.request trivial) fun _ s₃ _ toLog => ?_
      exact ensures_pure ((toCount.trans toLog).held.trans alone')

theorem ensures_alertOpen (carries : s.store.Carries i) (alone : held t s.history = none) :
    (custody e).Ensures t (e.alertOpen i now) (fun _ s' => held t s'.history = none) s := by
  unfold Engine.alertOpen
  split
  · refine ensures_bind (Ensures.mono (ensures_announce carries alone) ?_)
    exact fun _ _ _ left => ensures_pure left
  · exact ensures_pure alone

theorem ensures_alertResolved (carries : s.store.Carries i) (alone : held t s.history = none) :
    (custody e).Ensures t (e.alertResolved i now) (fun _ s' => held t s'.history = none) s := by
  unfold Engine.alertResolved
  split
  · refine ensures_bind (Ensures.mono (ensures_announce carries alone) ?_)
    exact fun _ _ _ left => ensures_pure left
  · exact ensures_pure alone

/-! ## Verdicts -/

/-- A judged incident is in hand and active still. -/
structure Judged (t : Nat) (s : Situation) (i : Incident) : Prop where
  inHand : InHand t s i
  active : i.status = .active
  sound : i.Sound

theorem Judged.meanwhile (judged : Judged t s i) (meanwhile : Meanwhile t s s') : Judged t s' i :=
  ⟨judged.inHand.meanwhile meanwhile, judged.active, judged.sound⟩

theorem achieves_recount (judged : Judged t s i) (retries : UInt32) :
    (custody e).Achieves t (Work.update { i with resolvedRetryCount := retries })
      (fun _ s' => Judged t s' { i with resolvedRetryCount := retries })
      (fun s' => held t s'.history = some i.releaseKey) s :=
  Achieves.mono (achieves_update judged.inHand (Incident.evolves_counted judged.active retries)
    (judged.sound.counted retries))
    (fun _ _ _ inHand => ⟨inHand, judged.active, judged.sound.counted retries⟩) fun _ left => left

theorem achieves_judgeHealth {health : RolloutHealth} (judged : Judged t s i) :
    (custody e).Achieves t (e.judgeHealth i health)
      (fun result s' => i.Evolves result.1 ∧ Judged t s' result.1)
      (fun s' => held t s'.history = some i.releaseKey) s := by
  unfold Engine.judgeHealth
  refine achieves_bind (achieves_checked fun failing _ => ?_)
  split
  · refine achieves_bind (Achieves.mono (achieves_recount judged 0) ?_ fun _ left => left)
    exact fun _ _ _ counted =>
      achieves_pure ⟨Incident.evolves_counted judged.active 0, counted⟩
  · refine achieves_bind (achieves_checked fun retries _ => ?_)
    refine achieves_bind (Achieves.mono (achieves_recount judged retries) ?_ fun _ left => left)
    intro _ s₁ _ counted
    refine achieves_quietly (.request trivial) fun _ s₂ _ later => ?_
    exact achieves_pure
      ⟨Incident.evolves_counted judged.active retries, counted.meanwhile later⟩

theorem quiet_judgeUnreadable (i : Incident) (settled : Bool) (error : QueryError) :
    (Engine.judgeUnreadable i settled error).Quiet fun result => result.1 = i := by
  unfold Engine.judgeUnreadable
  split
  · exact ⟨trivial, fun _ => rfl⟩
  · exact ⟨trivial, fun _ => rfl⟩

theorem achieves_judge (judged : Judged t s i) :
    (custody e).Achieves t (e.judge i now)
      (fun result s' => i.Evolves result.1 ∧ Judged t s' result.1)
      (fun s' => held t s'.history = some i.releaseKey) s := by
  unfold Engine.judge
  refine achieves_bind (achieves_checked fun settledAt _ => ?_)
  split
  · refine achieves_bind (achieves_checked fun probedFrom _ => ?_)
    split
    · exact achieves_pure ⟨.refl i, judged⟩
    · refine achieves_quietly (.request trivial) fun answer s₁ _ later => ?_
      have judged' := judged.meanwhile later
      cases answer with
      | ok health => exact achieves_judgeHealth judged'
      | error error =>
          refine achieves_lift (ensures_of_quiet (quiet_judgeUnreadable i _ error) ?_)
          rintro ⟨_, verdict⟩ s₂ rfl later'
          exact ⟨.refl _, judged'.meanwhile later'⟩
  · exact achieves_pure ⟨.refl i, judged⟩

theorem achieves_resolve (judged : Judged t s i) :
    (custody e).Achieves t (e.resolve i now)
      (fun resolved s' => i.Evolves resolved ∧ InHand t s' resolved)
      (fun s' => held t s'.history = some i.releaseKey) s := by
  unfold Engine.resolve
  have evolves := Incident.evolves_resolved judged.active now
  refine achieves_bind (Achieves.mono (achieves_update judged.inHand evolves
    (judged.sound.resolved now)) ?_ fun _ left => left)
  intro _ s₁ _ inHand
  refine achieves_quietly (.request trivial) fun _ s₂ _ toCount => ?_
  refine achieves_quietly (.request trivial) fun _ s₃ _ toLog => ?_
  exact achieves_pure ⟨evolves, inHand.meanwhile (toCount.trans toLog)⟩

/-! ## Sweeps -/

/-- An incident is examined as it stands under the lock, not as it was listed. -/
theorem achieves_examine {listed : Incident} (carries : s.store.Carries listed)
    (alone : held t s.history = none) :
    (custody e).Achieves t (e.examine listed now)
      (fun result s' => held t s'.history = none ∧ ∀ i ∈ result, s'.store.Carries i.1)
      (fun s' => held t s'.history = none) s := by
  refine achieves_underLock
    (fun result store => ∀ i ∈ result, store.Carries (i : Incident × Engine.Verdict).1)
    (fun carried grows i member => (carried i member).of_evolves grows) alone
    fun s₁ locked grows => ?_
  refine achieves_bind (Achieves.mono
    (achieves_read? (carries.of_evolves grows) locked) ?_ fun _ left => left)
  rintro found s₂ consistent ⟨still, inHand⟩
  cases found with
  | none => exact achieves_pure ⟨still, fun _ nothing => nomatch nothing⟩
  | some i =>
      obtain ⟨evolves, here⟩ := inHand i rfl
      have key : some i.releaseKey = some listed.releaseKey := congrArg some evolves.releaseKey
      dsimp only
      split
      · rename_i active
        have judged : Judged t s₂ i := ⟨here, Incident.isActive_iff.1 active,
          consistent.sound i (Store.get?_eq_some_iff.1 here.stored).1⟩
        refine achieves_bind (Achieves.mono (achieves_judge judged) ?_ fun _ left => left.trans key)
        rintro ⟨j, verdict⟩ s₃ _ ⟨later, judged'⟩
        have key' : some j.releaseKey = some listed.releaseKey :=
          (congrArg some later.releaseKey).trans key
        dsimp only
        split
        · refine achieves_bind (Achieves.mono (achieves_resolve judged') ?_
            fun _ left => left.trans key')
          rintro resolved s₄ _ ⟨evolves', inHand'⟩
          refine achieves_pure
            ⟨inHand'.locked.trans ((congrArg some evolves'.releaseKey).trans key'), ?_⟩
          rintro _ ⟨⟩
          exact Store.carries_of_get? inHand'.stored
        · refine achieves_pure ⟨judged'.inHand.locked.trans key', ?_⟩
          rintro _ ⟨⟩
          exact Store.carries_of_get? judged'.inHand.stored
      · exact achieves_pure ⟨still, fun _ nothing => nomatch nothing⟩

theorem achieves_countAlert (report : SweepReport) (result : Except EngineError Bool)
    (alone : held t s.history = none) :
    (custody e).Achieves t (Engine.countAlert report result) (fun _ s' => held t s'.history = none)
      (fun s' => held t s'.history = none) s := by
  unfold Engine.countAlert
  split
  · exact achieves_pure alone
  · exact achieves_pure alone
  · exact achieves_pure alone
  · exact achieves_throw alone

theorem achieves_visit (e : Engine) (now : Instant) {listed : Incident} (report : SweepReport)
    (carries : s.store.Carries listed) (alone : held t s.history = none) :
    (custody e).Achieves t (e.visit now report listed) (fun _ s' => held t s'.history = none)
      (fun s' => held t s'.history = none) s := by
  unfold Engine.visit
  refine achieves_bind (Achieves.mono (achieves_examine carries alone) ?_ fun _ left => left)
  rintro result s₁ _ ⟨alone', carried⟩
  split
  · exact achieves_pure alone'
  · exact achieves_pure alone'
  · refine achieves_bind (achieves_lift (Ensures.mono
      (ensures_alertOpen (carried _ rfl) alone') ?_))
    exact fun _ _ _ left => achieves_countAlert _ _ left
  · refine achieves_bind (achieves_lift (Ensures.mono
      (ensures_alertResolved (carried _ rfl) alone') ?_))
    exact fun _ _ _ left => achieves_countAlert _ _ left

/-- One visit after the other: what was listed stays in the store meanwhile. -/
theorem achieves_visits (listed : List Incident) (report : SweepReport)
    (carries : ∀ i ∈ listed, s.store.Carries i) (alone : held t s.history = none) :
    (custody e).Achieves t (listed.foldlM (e.visit now) report)
      (fun _ s' => held t s'.history = none) (fun s' => held t s'.history = none) s := by
  induction listed generalizing s report with
  | nil => exact achieves_pure alone
  | cons i rest inductionHypothesis =>
      rw [List.foldlM_cons]
      have visit := ensures_growing
        (achieves_visit e now report (carries i List.mem_cons_self) alone) (.refl s.store)
      refine achieves_bind (Ensures.mono visit fun result s₁ _ after => ?_)
      cases result with
      | ok report' =>
          refine inductionHypothesis report' (fun j member => ?_) after.1
          exact (carries j (List.mem_cons_of_mem i member)).of_evolves after.2
      | error error => exact after.1

theorem achieves_sweep (now : Instant) (alone : held t s.history = none) :
    (custody e).Achieves t (e.sweep now) (fun _ _ => True) (fun _ => True) s := by
  unfold Engine.sweep
  refine achieves_bind (Achieves.mono (achieves_listAll alone) ?_ fun _ _ => trivial)
  rintro active s₁ _ ⟨alone', carries⟩
  refine achieves_bind (Achieves.mono (achieves_visits active _ carries alone') ?_
    fun _ _ => trivial)
  intro report s₂ _ _
  refine achieves_quietly (.request trivial) fun _ s₃ _ _ => ?_
  refine achieves_bind (achieves_checked fun left _ => ?_)
  refine achieves_quietly (.request trivial) fun _ s₄ _ _ => ?_
  refine achieves_quietly (.request trivial) fun _ s₅ _ _ => ?_
  exact achieves_pure trivial

/-! ## Operations -/

/-- Batches and sweeps keep to the discipline. -/
theorem obeys_custody (e : Engine) (t : Nat) (op : Operation) (s : Situation)
    (alone : held t s.history = none) :
    (custody e).Ensures t (op.program e) ((custody e).final op) s := by
  cases op with
  | batch events now =>
      refine ensures_bind (Ensures.mono (achieves_handleBatch events now alone) ?_)
      intro result s' _ left
      refine ensures_pure ?_
      cases result with
      | ok outcome => exact left
      | error error => trivial
  | sweep now =>
      refine ensures_bind (Ensures.mono (achieves_sweep now alone) ?_)
      exact fun result s' _ _ => ensures_pure trivial

/-- The engine keeps to the discipline after every schedule. -/
theorem steady_custody (e : Engine) (schedule : List Turn) :
    Steady (custody e) (System.after e schedule) :=
  steady_after (obeys_custody e) schedule

end IncidentWatch.Interleaving

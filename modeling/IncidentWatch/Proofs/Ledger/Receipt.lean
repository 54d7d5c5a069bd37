import IncidentWatch.Proofs.Ledger.Intake

/-!
# The tally of a batch

A batch is charged for having been received at once, and as it goes on its tally is that of a batch
that fails, until it is skipped, has created an incident or was merged into one; whatever it ends
with, its tally is that of its fate (`tallied_handleBatch`). All else that operations ask for adds
to no account: a sweep files nothing (`files_sweep`), and neither does a batch while it scopes its
candidate or looks for a target.
-/

set_option autoImplicit false

namespace IncidentWatch

open Interleaving (Operation Outcome)

/-! ## Programs that file nothing -/

/-- Only what files nothing is asked for. -/
def FilingNothing : Unit → Request → Prop :=
  fun _ r => r.FilesNothing

theorem Work.Heeds.run {α σ : Type} {o : Observer σ} {may : σ → Request → Prop} {w : Work α}
    {known : σ} (heeds : Work.Heeds o may (fun _ _ => True) w known) :
    w.run.Heeds o may (fun _ _ => True) known :=
  Program.Heeds.mono heeds fun _ _ _ => trivial

/-- What files nothing leaves the tally as it is. -/
theorem Program.heeds_tally_of_nothing {α : Type} {p : Program α} (sums : Intake → Int)
    (nothing : p.Heeds silent FilingNothing (fun _ _ => True) ()) :
    p.Heeds tally (fun _ r => r.FilesNothing) (fun _ sums' => sums' = sums) sums := by
  induction p with
  | done a => rfl
  | halt fault => trivial
  | ask r next inductionHypothesis =>
      refine ⟨nothing.1, fun a => ?_⟩
      have same : tally.next sums r a = sums := by
        funext account
        exact (congrArg (sums account + ·) (nothing.1.charge a account)).trans (Int.add_zero _)
      rw [same]
      exact inductionHypothesis a (nothing.2 a)

namespace Engine

variable {e : Engine} {now : Instant} {i : Incident}

theorem files_listAll (f : IncidentFilter) (pageSize : UInt64) :
    Work.Heeds silent FilingNothing (fun _ _ => True) (Work.listAll f pageSize) () :=
  Work.heeds_listFrom (fun _ => True) (fun _ _ => trivial) (fun _ _ _ => trivial) _ trivial

/-! ## Sweeps -/

theorem files_judgeHealth {health : RolloutHealth} :
    Work.Heeds silent FilingNothing (fun _ _ => True) (e.judgeHealth i health) () := by
  unfold judgeHealth
  refine Work.heeds_checked fun failing _ => ?_
  split
  · exact Work.heeds_update trivial (Work.heeds_pure trivial)
  · refine Work.heeds_checked fun retries _ => ?_
    exact Work.heeds_update trivial (Work.heeds_ask trivial fun _ => Work.heeds_pure trivial)

theorem files_judgeUnreadable {settled : Bool} {error : QueryError} :
    (judgeUnreadable i settled error).Heeds silent FilingNothing (fun _ _ => True) () := by
  unfold judgeUnreadable
  split <;> exact ⟨trivial, fun _ => trivial⟩

theorem files_judge : Work.Heeds silent FilingNothing (fun _ _ => True) (e.judge i now) () := by
  unfold judge
  refine Work.heeds_checked fun settledAt _ => ?_
  split
  · refine Work.heeds_checked fun probedFrom _ => ?_
    split
    · trivial
    · refine Work.heeds_ask trivial fun answer => ?_
      cases answer with
      | ok health => exact files_judgeHealth
      | error error =>
          exact Program.heeds_bind (files_judgeUnreadable.mono fun _ _ _ => trivial)
  · trivial

theorem files_resolve : Work.Heeds silent FilingNothing (fun _ _ => True) (e.resolve i now) () := by
  unfold resolve
  refine Work.heeds_update trivial (Work.heeds_ask (Request.filesNothing_add rfl 1) fun _ => ?_)
  exact ⟨trivial, fun _ => trivial⟩

theorem files_examine (listed : Incident) :
    Work.Heeds silent FilingNothing (fun _ _ => True) (e.examine listed now) () := by
  unfold examine
  refine Work.heeds_underLock trivial (fun _ => trivial) ?_
  refine Work.heeds_read? trivial (fun id => trivial) fun i => ?_
  dsimp only
  split
  · refine Work.heeds_bind (files_judge.mono ?_)
    rintro ⟨judged, verdict⟩ _ -
    dsimp only
    split
    · exact Work.heeds_bind (files_resolve.mono fun _ _ _ => trivial)
    · trivial
  · trivial

theorem files_storeMark :
    Work.Heeds silent FilingNothing (fun _ _ => True) (storeMark i now) () := by
  unfold storeMark
  refine Work.heeds_underLock trivial (fun _ => trivial) ?_
  refine Work.heeds_read? trivial (fun id => trivial) fun stored => ?_
  exact Work.heeds_update trivial (Work.heeds_pure trivial)

theorem files_announce {kind : AlertKind} :
    (e.announce i kind now).Heeds silent FilingNothing (fun _ _ => True) () := by
  unfold announce
  refine Program.heeds_bind ⟨trivial, fun answer => ?_⟩
  cases answer with
  | ok delivered =>
      unfold markAlerted
      refine Program.heeds_bind (Program.Heeds.mono files_storeMark fun result _ _ => ?_)
      cases result with
      | ok marked => exact ⟨Request.filesNothing_add rfl 1, fun _ => ⟨trivial, fun _ => trivial⟩⟩
      | error error => trivial
  | error text => exact ⟨Request.filesNothing_add rfl 1, fun _ => ⟨trivial, fun _ => trivial⟩⟩

theorem files_alertOpen :
    (e.alertOpen i now).Heeds silent FilingNothing (fun _ _ => True) () := by
  unfold alertOpen
  split
  · exact Program.heeds_bind (files_announce.mono fun _ _ _ => trivial)
  · trivial

theorem files_alertResolved :
    (e.alertResolved i now).Heeds silent FilingNothing (fun _ _ => True) () := by
  unfold alertResolved
  split
  · exact Program.heeds_bind (files_announce.mono fun _ _ _ => trivial)
  · trivial

theorem files_visit {report : SweepReport} (listed : Incident) :
    Work.Heeds silent FilingNothing (fun _ _ => True) (e.visit now report listed) () := by
  have counts : ∀ (report : SweepReport) (result : Except EngineError Bool),
      Work.Heeds silent FilingNothing (fun _ _ => True) (countAlert report result) () := by
    intro report result
    unfold countAlert
    split <;> trivial
  unfold visit
  refine Work.heeds_bind ((files_examine listed).mono ?_)
  rintro (_ | ⟨i, verdict⟩) _ -
  · trivial
  cases verdict with
  | skipped => trivial
  | unresolved => exact Work.heeds_lift (files_alertOpen.mono fun _ _ _ => counts _ _)
  | resolved => exact Work.heeds_lift (files_alertResolved.mono fun _ _ _ => counts _ _)

/-- A sweep files nothing. -/
theorem files_sweep (e : Engine) (now : Instant) :
    Work.Heeds silent FilingNothing (fun _ _ => True) (e.sweep now) () := by
  unfold sweep
  refine Work.heeds_bind ((files_listAll .active _).mono fun found _ _ => ?_)
  refine Work.heeds_bind ((Work.heeds_foldlM (fun _ _ _ => True) (fun listed _ =>
    files_visit listed) found (n := 0) trivial).mono fun report _ _ => ?_)
  refine Work.heeds_ask trivial fun _ => Work.heeds_checked fun left _ => ?_
  refine Work.heeds_ask (Request.filesNothing_set rfl _) fun _ => ?_
  exact Work.heeds_ask (Request.filesNothing_add rfl 1) fun _ => Work.heeds_pure trivial

/-! ## Batches -/

variable {sums : Intake → Int}

theorem tallied_candidate (e : Engine) (recognized : List ClassifiedEvent) (owner : OwnerRef)
    (first : Event) : (e.candidate recognized owner first now).Heeds tally
      (fun _ r => r.OnlyCounts) (fun _ sums' => sums' = sums) sums := by
  have nothing : (e.candidate recognized owner first now).Heeds silent FilingNothing
      (fun _ _ => True) () :=
    (asks_candidate e recognized owner first).loosen fun _ _ => Request.Builds.filesNothing
  exact (Program.heeds_tally_of_nothing sums nothing).loosen fun _ _ =>
    Request.FilesNothing.onlyCounts

/-- A batch that was received is skipped, and charged for it. -/
theorem tallied_skip (e : Engine) (reason : SkipReason) (event : Option Event) (detail : String)
    (received : Fate.failed.Tallied sums) :
    (e.skip reason event detail).Heeds tally (fun _ r => r.OnlyCounts)
      (fun outcome => (Fate.of (.ok outcome)).Tallied) sums := by
  refine ⟨fun _ => trivial, fun _ => ⟨trivial, fun _ => Fate.Tallied.free ?_ fun _ => rfl⟩⟩
  refine received.next fun account => ?_
  cases account with
  | dropped other =>
      simp only [Fate.of, Fate.amount, Intake.charge, Intake.series, Measure.amountIn,
        List.mem_singleton, Series.batchesDropped.injEq]
      split <;> rfl
  | _ => simp [Fate.of, Fate.amount, Intake.charge, Intake.series, Measure.amountIn]

/-- A candidate is created and counted, or the store refuses it. -/
theorem tallied_create (node : String) (candidate : Incident)
    (received : Fate.failed.Tallied sums) :
    (Saving.create node candidate).run.Heeds tally (fun _ r => r.OnlyCounts)
      (fun result => (Fate.of (result.map .ofSave)).Tallied) sums := by
  unfold Saving.create
  refine Work.heeds_run_bind ⟨trivial, fun answer => ?_⟩
  cases answer with
  | error error => exact received.free fun _ => rfl
  | ok stored =>
      -- The store and the metrics are charged in turn; only both together make a fate.
      refine ⟨fun _ => trivial, fun _ => ⟨trivial, fun _ => Fate.Tallied.free ?_ fun _ => rfl⟩⟩
      intro account
      refine (congrArg (· + _ + _) (received account)).trans ?_
      cases account <;> simp [Except.map, Fate.of, BatchOutcome.ofSave, Fate.amount, Intake.charge,
        Intake.series, Measure.amountIn]

/-- A candidate is merged and counted, or the store refuses it. -/
theorem tallied_mergeInto (node : String) (target candidate : Incident) (owner : OwnerRef)
    (received : Fate.failed.Tallied sums) :
    (Saving.mergeInto node target candidate owner now).run.Heeds tally (fun _ r => r.OnlyCounts)
      (fun result => (Fate.of (result.map .ofSave)).Tallied) sums := by
  unfold Saving.mergeInto
  refine ⟨trivial, fun _ => ?_⟩
  refine Work.heeds_run_bind ⟨trivial, fun answer => ?_⟩
  cases answer with
  | error error => exact (received.free fun _ => rfl).free fun _ => rfl
  | ok written =>
      refine ⟨fun _ => trivial, fun _ => ⟨trivial, fun _ => Fate.Tallied.free ?_ fun _ => rfl⟩⟩
      refine Fate.Tallied.next ((received.free fun _ => rfl).free fun _ => rfl) fun account => ?_
      cases account <;> simp [Except.map, Fate.of, BatchOutcome.ofSave, Fate.amount, Intake.charge,
        Intake.series, Measure.amountIn]

theorem tallied_save (node : String) (pageSize : UInt64) (candidate : Incident) (owner : OwnerRef)
    (received : Fate.failed.Tallied sums) :
    (Saving.save node pageSize candidate owner now).run.Heeds tally (fun _ r => r.OnlyCounts)
      (fun result => (Fate.of (result.map .ofSave)).Tallied) sums := by
  unfold Saving.save
  have locked : Fate.failed.Tallied (tally.next sums (.lock candidate.releaseKey) ()) :=
    received.free fun _ => rfl
  refine Program.heeds_bind ⟨trivial, fun _ => ?_⟩
  refine Program.heeds_bind (Program.Heeds.mono ?_ fun result sums' saved =>
    ⟨trivial, fun _ => Fate.Tallied.free saved fun _ => rfl⟩)
  refine Work.heeds_run_bind (((Program.heeds_tally_of_nothing _
    (files_listAll _ pageSize).run).loosen fun _ _ => Request.FilesNothing.onlyCounts).mono ?_)
  rintro result _ rfl
  cases result with
  | error error => exact locked
  | ok found =>
      dsimp only
      split
      · exact tallied_create node candidate locked
      · exact tallied_mergeInto node _ candidate owner locked

/-- Whatever becomes of a batch, its tally is that of its fate. -/
theorem tallied_handleBatch (e : Engine) (events : List Event) (now : Instant) :
    (e.handleBatch events now).run.Heeds tally (fun _ r => r.OnlyCounts)
      (fun result => (Fate.of result).Tallied) tally.start := by
  have skips : ∀ {sums : Intake → Int} (reason : SkipReason) (event : Option Event)
      (detail : String), Fate.failed.Tallied sums →
        (liftM (e.skip reason event detail) : Work BatchOutcome).run.Heeds tally
          (fun _ r => r.OnlyCounts) (fun result => (Fate.of result).Tallied) sums :=
    fun reason event detail received =>
      Program.heeds_bind ((tallied_skip e reason event detail received).mono fun _ _ holds => holds)
  have received : Fate.failed.Tallied
      (tally.next tally.start (.measure (.add .batchesReceived 1)) ()) := by
    intro account
    cases account <;> rfl
  unfold handleBatch
  refine Work.heeds_run_ask (fun _ => trivial) fun _ => ?_
  split
  · exact skips _ _ _ received
  split
  · exact skips _ _ _ received
  refine Work.heeds_run_ask trivial fun answer => ?_
  cases answer with
  | error error => exact skips _ _ _ (received.free fun _ => rfl)
  | ok owner =>
      dsimp only
      split
      · exact skips _ _ _ (received.free fun _ => rfl)
      refine Work.heeds_run_ask (fun _ => trivial) fun _ => ?_
      refine Work.heeds_run_lift (Program.Heeds.mono (tallied_candidate e _ owner _) ?_)
      rintro built _ rfl
      refine Work.heeds_run_bind (Program.Heeds.mono
        (tallied_save e.node e.settings.pageSize built owner ?_) ?_)
      · refine Fate.Tallied.free (received.free fun _ => rfl) ?_
        exact fun account => (Request.filesNothing_add rfl _).charge () account
      · intro result sums saved
        cases result with
        | ok outcome => exact saved
        | error error => exact saved

/-! ## Operations -/

/-- What operations may ask for: sweeps only what adds to no account. -/
def TalliesOf : Operation → (Intake → Int) → Request → Prop
  | .batch _ _ => fun _ r => r.OnlyCounts
  | .sweep _ => fun _ r => r.FilesNothing

/-- An operation ends with the tally of what it has come to. -/
def EndsTallied (outcome : Outcome) (sums : Intake → Int) : Prop :=
  ∀ account, sums account = outcome.amount account

theorem heeds_tally (e : Engine) (op : Operation) :
    (op.program e).Heeds tally (TalliesOf op) EndsTallied tally.start := by
  cases op with
  | batch events now =>
      exact Program.heeds_bind ((tallied_handleBatch e events now).mono fun _ _ tallied => tallied)
  | sweep now =>
      have nothing := Program.heeds_tally_of_nothing tally.start (files_sweep e now).run
      refine Program.heeds_bind (nothing.mono ?_)
      rintro result _ rfl
      exact fun _ => rfl

theorem onlyCounts_of_tallies {op : Operation} {sums : Intake → Int} {r : Request}
    (may : TalliesOf op sums r) : r.OnlyCounts := by
  cases op with
  | batch events now => exact may
  | sweep now => exact Request.FilesNothing.onlyCounts may

end Engine

end IncidentWatch

import IncidentWatch.Proofs.Course.Stage

/-!
# The course of a sweep

A sweep follows its rule (`follows_sweep`). The stage that it is in after it has examined
an incident is the verdict on it (`follows_examine`), and between two incidents no
announcement is due any more (`Between`).
-/

set_option autoImplicit false

namespace IncidentWatch

theorem Word.toNat_of_uint32 {fault : Fault} {v : Nat} {w : UInt32}
    (made : Word.uint32 fault v = .ok w) : w.toNat = v := by
  unfold Word.uint32 at made
  split at made
  · cases made
    rw [UInt32.toNat_ofNat']
    omega
  · cases made

/-- What is too large for a word is the value of none. -/
theorem Word.toNat_ne_of_uint32 {fault fault' : Fault} {v : Nat}
    (tooLarge : Word.uint32 fault v = .error fault') (w : UInt32) : w.toNat ≠ v := by
  rintro rfl
  unfold Word.uint32 at tooLarge
  rw [if_pos w.toNat_lt] at tooLarge
  cases tooLarge

namespace Work

variable {α : Type} {may : Stage → Request → Prop} {post : α → Stage → Prop}
  {failed : Stage → Prop} {stage : Stage}

/-- An incident is read, or there is none, or the store refuses to read. -/
theorem follows_read? {id : String} {f : Option Incident → Work α} (asks : may stage (.read id))
    (broken : failed stage.refused) (missing : Follows may post failed (f none) stage.refused)
    (found : ∀ i, Follows may post failed (f (some i)) (stage.read i)) :
    Follows may post failed (Work.read? id >>= f) stage := by
  refine follows_bind (Program.follows_ask asks fun a => ?_)
  cases a with
  | ok i => exact found i
  | error error =>
      cases error with
      | notFound id => exact missing
      | backend text => exact broken

end Work

namespace Engine

open Work

variable (e : Engine) (now : Instant)

/-! ## Verdicts -/

/-- The stage fits a verdict on an incident: it may be resolved, or else the lock may be given
back. -/
structure Decided (i : Incident) (verdict : Verdict) (stage : Stage) : Prop where
  resolves : verdict = .resolved → e.SweepMay now stage (.update (i.resolvedAt now)) ∧
    stage.updated (i.resolvedAt now) = .resolved (i.resolvedAt now)
  leaves : verdict ≠ .resolved →
    (∀ release, e.SweepMay now stage (.unlock release)) ∧ stage.unlocked = .judged i verdict
  refused : stage.refused = .leaving

variable {e now}

theorem follows_judgeHealth {i : Incident} {health : RolloutHealth} (probes : e.Probes now i) :
    Follows (e.SweepMay now) (fun result => e.Decided now result.1 result.2) (· = .leaving)
      (e.judgeHealth i health) (.probed i health) := by
  unfold judgeHealth
  refine follows_checked ?_ fun failing answer => ?_
  · intro fault overflow j counts
    cases counts with
    | failing ill => cases ill.symm.trans overflow
    | healthy well retries counted => cases well.symm.trans overflow
  split
  · rename_i ill
    subst ill
    refine follows_update ⟨probes, .failing answer⟩ rfl (follows_pure ⟨nofun, fun _ => ?_, rfl⟩)
    refine ⟨fun release recovered => ?_, rfl⟩
    rw [recovered.healthy] at answer
    cases answer
  · rename_i well
    rw [Bool.not_eq_true] at well
    subst well
    refine follows_checked ?_ fun retries counted => ?_
    · intro fault tooLarge j counts
      cases counts with
      | failing ill => cases ill.symm.trans answer
      | healthy well retries counted => exact Word.toNat_ne_of_uint32 tooLarge retries counted
    have counts := Counts.healthy answer retries (Word.toNat_of_uint32 counted)
    refine follows_update ⟨probes, counts⟩ rfl (follows_ask trivial fun _ => follows_pure ?_)
    by_cases enough : e.settings.retryThreshold ≤ retries
    · simp only [enough, if_true]
      exact ⟨fun _ => ⟨⟨⟨probes.deployment, probes.critical, probes.quiet⟩, ⟨answer, enough⟩, rfl⟩,
        rfl⟩, fun other => absurd rfl other, rfl⟩
    · simp only [enough, if_false]
      exact ⟨nofun, fun _ => ⟨fun release recovered => enough recovered.enough, rfl⟩, rfl⟩

theorem follows_judgeUnreadable {i : Incident} {settled : Bool} {error : QueryError}
    (quiet : settled = true → QuietFor now i e.settings.settleAfter) :
    (judgeUnreadable i settled error).Follows (e.SweepMay now)
      (fun result => e.Decided now result.1 result.2) (.unreadable i) := by
  unfold judgeUnreadable
  split
  · rename_i enough
    exact ⟨trivial, fun _ => ⟨fun _ => ⟨⟨quiet enough, rfl⟩, rfl⟩, fun other => absurd rfl other,
      rfl⟩⟩
  · exact ⟨trivial, fun _ => ⟨nofun, fun _ => ⟨fun _ => trivial, rfl⟩, rfl⟩⟩

theorem follows_judge (e : Engine) (now : Instant) (i : Incident) :
    Follows (e.SweepMay now) (fun result => e.Decided now result.1 result.2) (· = .leaving)
      (e.judge i now) (.found i) := by
  unfold judge
  refine follows_checked (fun _ _ => trivial) fun settledAt settles => ?_
  have quiet : decide (settledAt ≤ now) = true → QuietFor now i e.settings.settleAfter :=
    fun elapsed => ⟨settledAt, settles, of_decide_eq_true elapsed⟩
  split
  · rename_i needed
    obtain ⟨deployment, critical⟩ := needsProbe_iff.1 needed
    refine follows_checked (fun _ _ => trivial) fun probedFrom waits => ?_
    split
    · exact follows_pure ⟨nofun, fun _ => ⟨fun _ => trivial, rfl⟩, rfl⟩
    · rename_i early
      have probes : e.Probes now i :=
        ⟨deployment, critical, probedFrom, waits, Instant.le_of_not_lt early⟩
      refine follows_ask ⟨probes, rfl, rfl⟩ fun answer => ?_
      cases answer with
      | ok health => exact follows_judgeHealth probes
      | error error =>
          exact Program.follows_bind
            (Program.Follows.mono (follows_judgeUnreadable quiet) fun _ _ holds => holds)
  · rename_i spared
    rw [needsProbe_iff] at spared
    by_cases elapsed : settledAt ≤ now
    · simp only [elapsed, decide_true, if_true]
      exact follows_pure ⟨fun _ => ⟨⟨spared, quiet (decide_eq_true elapsed), rfl⟩, rfl⟩,
        fun other => absurd rfl other, rfl⟩
    · simp only [elapsed, decide_false, Bool.false_eq_true, if_false]
      exact follows_pure ⟨nofun, fun _ => ⟨fun _ => trivial, rfl⟩, rfl⟩

/-! ## Examinations -/

/-- The stage after an examination tells its result. -/
def Examined : Option (Incident × Verdict) → Stage → Prop
  | none, stage => stage = .apart
  | some (i, verdict), stage => stage = .judged i verdict

/-- Examining an incident ends in its verdict. -/
theorem follows_examine (e : Engine) (now : Instant) (listed : Incident) {stage : Stage}
    (asks : e.SweepMay now stage (.lock listed.releaseKey)) (enters : stage.locked = .entered []) :
    Follows (e.SweepMay now) Examined (· = .apart) (e.examine listed now) stage := by
  unfold examine
  refine follows_underLock asks ?_
  rw [enters]
  refine follows_read? trivial ⟨trivial, rfl⟩ (follows_pure ⟨trivial, rfl⟩) fun i => ?_
  by_cases active : i.isActive = true
  · simp only [Stage.read, active, if_true]
    refine follows_bind (Follows.mono (follows_judge e now i) ?_ ?_)
    · rintro ⟨j, verdict⟩ stage' decided
      dsimp only
      split
      · rename_i settles
        obtain ⟨may, updated⟩ := decided.resolves settles
        refine follows_bind ?_
        unfold resolve
        have refused : e.SweepMay now stage'.refused (.unlock listed.releaseKey) ∧
            stage'.refused.unlocked = .apart := by
          rw [decided.refused]
          exact ⟨trivial, rfl⟩
        refine follows_update may refused ?_
        show Follows _ _ _ _ (stage'.updated (j.resolvedAt now))
        rw [updated]
        subst settles
        exact follows_ask trivial fun _ => follows_ask trivial fun _ =>
          follows_pure (follows_pure ⟨trivial, rfl⟩)
      · rename_i open'
        obtain ⟨may, unlocked⟩ := decided.leaves open'
        exact follows_pure ⟨may _, unlocked⟩
    · rintro _ rfl
      exact ⟨trivial, rfl⟩
  · simp only [Stage.read, active, if_false, Bool.false_eq_true]
    exact follows_pure ⟨trivial, rfl⟩

/-! ## Announcements -/

/-- A sweep is done with an incident: no announcement of it is due any more. -/
def Between (e : Engine) (now : Instant) (stage : Stage) : Prop :=
  stage = .apart ∨ ∃ i verdict, stage = .judged i verdict ∧ e.announcement? now i verdict = none

theorem Between.lock {stage : Stage} (between : e.Between now stage) (release : ReleaseKey) :
    e.SweepMay now stage (.lock release) ∧ stage.locked = .entered [] := by
  rcases between with rfl | ⟨i, verdict, rfl, nothing⟩
  · exact ⟨trivial, rfl⟩
  · refine ⟨?_, rfl⟩
    simp only [SweepMay, nothing]
    exact Or.inl ⟨release, rfl⟩

theorem Between.prune {stage : Stage} (between : e.Between now stage) :
    e.SweepMay now stage .pruneLocks := by
  rcases between with rfl | ⟨i, verdict, rfl, nothing⟩
  · trivial
  · simp [SweepMay, nothing]

/-- The mark is stored under the lock of the release, on the record that is read there. -/
theorem follows_storeMark (e : Engine) (now : Instant) (i : Incident) (kind : AlertKind) :
    Follows (e.SweepMay now) (fun _ => (· = .apart)) (· = .apart) (storeMark i now)
      (.delivered i kind) := by
  unfold storeMark
  refine follows_underLock trivial (follows_read? rfl ⟨trivial, rfl⟩ (follows_pure ⟨trivial, rfl⟩)
    fun stored => ?_)
  exact follows_update rfl ⟨trivial, rfl⟩ (follows_pure ⟨trivial, rfl⟩)

theorem follows_announce {i : Incident} {verdict : Verdict} {kind : AlertKind}
    (due : e.announcement? now i verdict = some kind) :
    (e.announce i kind now).Follows (e.SweepMay now) (fun _ => (· = .apart))
      (.judged i verdict) := by
  unfold announce
  refine Program.follows_ask (by simp only [SweepMay, due]) fun answer => ?_
  cases answer with
  | error text =>
      exact Program.follows_ask trivial fun _ => Program.follows_ask trivial fun _ => rfl
  | ok delivered =>
      unfold markAlerted
      refine Program.follows_bind (Program.Follows.mono (follows_storeMark e now i kind) ?_)
      intro result stage' apart
      cases result with
      | error error => exact apart
      | ok marked =>
          cases (show stage' = .apart from apart)
          exact Program.follows_ask trivial fun _ => Program.follows_ask trivial fun _ => rfl

theorem follows_alertOpen (e : Engine) (now : Instant) (i : Incident) :
    (e.alertOpen i now).Follows (e.SweepMay now) (fun _ => e.Between now)
      (.judged i .unresolved) := by
  unfold alertOpen
  split
  · rename_i due
    have announces : e.announcement? now i .unresolved = some .opened := if_pos due
    exact Program.follows_bind (Program.Follows.mono (follows_announce announces)
      fun _ _ apart => Or.inl apart)
  · rename_i early
    exact Or.inr ⟨i, .unresolved, rfl, if_neg early⟩

theorem follows_alertResolved (e : Engine) (now : Instant) (i : Incident) :
    (e.alertResolved i now).Follows (e.SweepMay now) (fun _ => e.Between now)
      (.judged i .resolved) := by
  unfold alertResolved
  split
  · rename_i critical
    have announces : e.announcement? now i .resolved = some .resolved := if_pos critical
    exact Program.follows_bind (Program.Follows.mono (follows_announce announces)
      fun _ _ apart => Or.inl apart)
  · rename_i normal
    exact Or.inr ⟨i, .resolved, rfl, if_neg normal⟩

/-! ## Sweeps -/

theorem follows_visit (e : Engine) (now : Instant) (report : SweepReport) (listed : Incident)
    {stage : Stage} (between : e.Between now stage) :
    Follows (e.SweepMay now) (fun _ => e.Between now) (e.Between now)
      (e.visit now report listed) stage := by
  have counts : ∀ (report : SweepReport) (result : Except EngineError Bool) {stage : Stage},
      e.Between now stage → Follows (e.SweepMay now) (fun _ => e.Between now) (e.Between now)
        (countAlert report result) stage := by
    intro report result stage between
    unfold countAlert
    split
    · exact between
    · exact between
    · exact between
    · exact between
  unfold visit
  obtain ⟨asks, enters⟩ := between.lock listed.releaseKey
  refine follows_bind (Follows.mono (follows_examine e now listed asks enters) ?_ ?_)
  · rintro (_ | ⟨i, verdict⟩) stage' examined
    · cases (show stage' = .apart from examined)
      exact follows_pure (Or.inl rfl)
    · cases (show stage' = .judged i verdict from examined)
      cases verdict with
      | skipped => exact follows_pure (Or.inr ⟨i, .skipped, rfl, rfl⟩)
      | unresolved =>
          exact follows_lift (Program.Follows.mono (follows_alertOpen e now i)
            fun result _ done => counts _ result.2 done)
      | resolved =>
          exact follows_lift (Program.Follows.mono (follows_alertResolved e now i)
            fun result _ done => counts _ result.2 done)
  · exact fun _ apart => Or.inl apart

theorem follows_visits (e : Engine) (now : Instant) (listed : List Incident) (report : SweepReport)
    {stage : Stage} (between : e.Between now stage) :
    Follows (e.SweepMay now) (fun _ => e.Between now) (e.Between now)
      (listed.foldlM (e.visit now) report) stage := by
  induction listed generalizing report stage with
  | nil => exact follows_pure between
  | cons i rest inductionHypothesis =>
      rw [List.foldlM_cons]
      exact follows_bind (Follows.mono (follows_visit e now report i between)
        (fun report' _ between' => inductionHypothesis report' between') fun _ left => left)

/-- A sweep follows its rule, and is done with all incidents when it ends. -/
theorem follows_sweep (e : Engine) (now : Instant) :
    Follows (e.SweepMay now) (fun _ => (· = .apart)) (e.Between now) (e.sweep now) .apart := by
  unfold sweep
  have listing : Follows (e.SweepMay now) (fun _ => (· = .apart)) (e.Between now)
      (Work.listAll .active e.settings.pageSize) .apart := by
    refine follows_listAll (fun _ stage => stage = .apart) ?_ ?_ ?_ ?_ rfl
    · rintro _ _ _ rfl
      trivial
    · rintro _ _ _ rfl
      rfl
    · rintro _ _ rfl
      trivial
    · rintro _ _ rfl
      exact Or.inl rfl
  refine follows_bind (Follows.mono listing ?_ fun _ left => left)
  rintro active _ rfl
  refine follows_bind (Follows.mono
    (follows_visits e now active { examined := active.length } (Or.inl rfl)) ?_ fun _ left => left)
  intro report stage between
  refine follows_ask between.prune fun _ => ?_
  refine follows_checked (fun _ _ => trivial) fun left _ => ?_
  exact follows_ask trivial fun _ => follows_ask trivial fun _ => follows_pure rfl

end Engine

end IncidentWatch

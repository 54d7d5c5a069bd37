import IncidentWatch.Proofs.Course.Observer
import IncidentWatch.Proofs.Ledger.Accounts

/-!
# The ledger of a sweep

The ledger of an operation has the incidents that it knows under its lock, and the sums of
its charges (`Ledger`). A sweep is careful (`Careful`): it writes over records that it knows,
reopens and creates nothing, and only counts the metrics of accounts up.

However a sweep goes, its report balances with its ledger (`Balanced`). That is kept by every
visit, whatever the verdict is and whatever becomes of the announcement (`heeds_visit`), and
so by the sweep (`heeds_sweep`). Work that fails is left out, for then there is no report.
-/

set_option autoImplicit false

namespace IncidentWatch

open Interleaving (seenAfter Operation Outcome)
open Engine (Verdict)

/-! ## Ledgers -/

/-- What an operation knows under its lock, and the sums of its charges. -/
structure Ledger where
  known : List Incident := []
  charges : Account → Int := fun _ => 0

namespace Ledger

def next (l : Ledger) (r : Request) (a : r.Answer) : Ledger :=
  ⟨seenAfter l.known r a, fun account => l.charges account + charge l.known r a account⟩

/-- The record of an incident that is known. -/
def Knows (l : Ledger) (i : Incident) : Prop :=
  l.known.find? (·.id = i.id) = some i

/-- The charges are what a report says, on top of earlier ones. -/
def Charged (base : Account → Int) (part : SweepReport) (l : Ledger) : Prop :=
  ∀ account, l.charges account = base account + part.amount account

variable {l : Ledger} {i : Incident} {base : Account → Int} {part : SweepReport}

theorem charged_nothing (l : Ledger) : l.Charged l.charges {} := by
  intro account
  cases account <;> exact (Int.add_zero _).symm

/-- Answers without a charge. -/
theorem Charged.next {r : Request} {a : r.Answer} (charged : l.Charged base part)
    (free : ∀ account, charge l.known r a account = 0) : (l.next r a).Charged base part := by
  intro account
  show l.charges account + charge l.known r a account = _
  rw [free, Int.add_zero]
  exact charged account

theorem knows_read {id : String} : (l.next (.read id) (.ok i)).Knows i := by
  simp [Knows, next, seenAfter, Interleaving.shown]

theorem knows_updated : (l.next (.update i) (.ok ())).Knows i := by
  simp [Knows, next, seenAfter, Interleaving.shown]

/-- A record of the same status as the known one is free of charge. -/
theorem charge_of_same_status {known : List Incident} {j : Incident}
    (knows : known.find? (·.id = j.id) = some i) (same : j.status = i.status) (account : Account) :
    charge known (.update j) (.ok ()) account = 0 := by
  have stays : closes known j = false := by
    rw [closes, knows, same]
    cases was : i.status <;> simp [was]
  cases account <;> simp [charge, stays]

end Ledger

/-- Keeps the ledger of an operation. -/
def ledger : Observer Ledger :=
  ⟨{}, Ledger.next⟩

/-- What may be asked for with a ledger, but for the locks to be pruned. -/
def Careful (l : Ledger) : Request → Prop
  | .create _ => False
  | .update i => ∃ old, l.known.find? (·.id = i.id) = some old ∧
      (old.status = .resolved → i.status = .resolved)
  | .measure m => ∀ account, m.OnlyAdds (Account.series account)
  | .pruneLocks => False
  | _ => True

namespace Engine

open Ledger

variable {e : Engine} {now : Instant} {i : Incident} {l : Ledger} {base : Account → Int}

/-! ## Verdicts -/

/-- After a verdict, nothing is charged, and the incident is known and active. -/
structure JudgedFor (base : Account → Int) (result : Incident × Verdict) (l : Ledger) : Prop where
  knows : l.Knows result.1
  active : result.1.status = .active
  charged : l.Charged base {}

theorem heeds_judgeHealth {health : RolloutHealth} (knows : l.Knows i) (active : i.status = .active)
    (charged : l.Charged base {}) :
    Work.Heeds ledger Careful (JudgedFor base) (e.judgeHealth i health) l := by
  unfold judgeHealth
  refine Work.heeds_checked fun failing _ => ?_
  have stays : ∀ retries : UInt32, Careful l (.update { i with resolvedRetryCount := retries }) :=
    fun retries => ⟨i, knows, fun closed => closed⟩
  have free : ∀ retries : UInt32, (ledger.next l
      (.update { i with resolvedRetryCount := retries }) (.ok ())).Charged base {} :=
    fun retries => charged.next (charge_of_same_status knows rfl)
  split
  · exact Work.heeds_update (stays _) (Work.heeds_pure ⟨knows_updated, active, free _⟩)
  · refine Work.heeds_checked fun retries _ => ?_
    refine Work.heeds_update (stays _) (Work.heeds_ask trivial fun _ => Work.heeds_pure ?_)
    exact ⟨knows_updated, active, (free _).next fun _ => rfl⟩

theorem heeds_judgeUnreadable {settled : Bool} {error : QueryError} (knows : l.Knows i)
    (active : i.status = .active) (charged : l.Charged base {}) :
    (judgeUnreadable i settled error).Heeds ledger Careful (JudgedFor base) l := by
  unfold judgeUnreadable
  split
  · exact ⟨trivial, fun _ => ⟨knows, active, charged.next fun _ => rfl⟩⟩
  · exact ⟨trivial, fun _ => ⟨knows, active, charged.next fun _ => rfl⟩⟩

theorem heeds_judge (knows : l.Knows i) (active : i.status = .active)
    (charged : l.Charged base {}) :
    Work.Heeds ledger Careful (JudgedFor base) (e.judge i now) l := by
  unfold judge
  refine Work.heeds_checked fun settledAt _ => ?_
  split
  · refine Work.heeds_checked fun probedFrom _ => ?_
    split
    · exact Work.heeds_pure ⟨knows, active, charged⟩
    · refine Work.heeds_ask trivial fun answer => ?_
      have charged' : (ledger.next l (.rollout i.involvedObject.namespaceName
          i.involvedObject.name e.settings.queryLimit) answer).Charged base {} :=
        charged.next fun _ => rfl
      cases answer with
      | ok health => exact heeds_judgeHealth knows active charged'
      | error error =>
          refine Program.heeds_bind (Program.Heeds.mono
            (heeds_judgeUnreadable knows active charged') ?_)
          exact fun _ _ holds => holds
  · exact Work.heeds_pure ⟨knows, active, charged⟩

/-! ## Examinations -/

/-- To store a known active incident as resolved, and to count that, is charged as one resolved
incident. -/
theorem charge_resolved {known known' : List Incident} {kind : ObjectKind}
    (knows : known.find? (·.id = i.id) = some i) (active : i.status = .active) (account : Account) :
    charge known (.update (i.resolvedAt now)) (.ok ()) account +
      charge known' (.measure (.add (.incidentsResolved kind) 1)) () account =
        ({ resolved := 1 } : SweepReport).amount account := by
  have resolves : closes known (i.resolvedAt now) = true := by
    show (decide (Status.resolved = .resolved) && (known.find? (·.id = i.id)).any _) = true
    rw [knows]
    simp [active]
  cases account with
  | stored => simp [charge, resolves, Account.series, Measure.amountIn, SweepReport.amount]
  | resolved => cases kind <;> simp [charge, Account.series, Measure.amountIn, SweepReport.amount]
  | _ => simp [charge, Account.series, Measure.amountIn, SweepReport.amount]

theorem heeds_resolve (knows : l.Knows i) (active : i.status = .active)
    (charged : l.Charged base {}) :
    Work.Heeds ledger Careful (fun _ l' => l'.Charged base { resolved := 1 })
      (e.resolve i now) l := by
  unfold resolve
  have asks : Careful l (.update (i.resolvedAt now)) := ⟨i, knows, fun _ => rfl⟩
  refine Work.heeds_update asks (Work.heeds_ask (fun _ => trivial) fun _ =>
    Work.heeds_ask trivial fun _ => Work.heeds_pure (Charged.next ?_ fun _ => rfl))
  intro account
  refine (Int.add_assoc _ _ _).trans ?_
  refine (congrArg _ (charge_resolved knows active account)).trans ?_
  rw [charged account]
  cases account <;> simp [SweepReport.amount]

/-- What an examination charges, by its result. -/
def ExaminedFor (base : Account → Int) : Option (Incident × Verdict) → Ledger → Prop
  | some (_, .resolved), l => l.Charged base { resolved := 1 }
  | _, l => l.Charged base {}

theorem heeds_examine (e : Engine) (now : Instant) (listed : Incident)
    (charged : l.Charged base {}) :
    Work.Heeds ledger Careful (ExaminedFor base) (e.examine listed now) l := by
  unfold examine
  refine Work.heeds_underLock trivial (fun _ => trivial) ?_
  have locked : (ledger.next l (.lock listed.releaseKey) ()).Charged base {} :=
    charged.next fun _ => rfl
  refine Work.heeds_read? trivial (fun id => Work.heeds_pure ?_) fun i => ?_
  · exact (locked.next fun _ => rfl).next fun _ => rfl
  by_cases active : i.isActive = true
  · simp only [active, if_true]
    refine Work.heeds_bind ((heeds_judge knows_read (Incident.isActive_iff.1 active)
      (locked.next fun _ => rfl)).mono ?_)
    rintro ⟨j, verdict⟩ l' judged
    dsimp only
    split
    · rename_i settles
      subst settles
      refine Work.heeds_bind ((heeds_resolve judged.knows judged.active judged.charged).mono ?_)
      exact fun _ _ charged' => Work.heeds_pure (charged'.next fun _ => rfl)
    · rename_i open'
      refine Work.heeds_pure ?_
      have unlocked := judged.charged.next (r := .unlock listed.releaseKey) (a := ()) fun _ => rfl
      cases verdict with
      | resolved => exact absurd rfl open'
      | _ => exact unlocked
  · simp only [active, if_false, Bool.false_eq_true]
    exact Work.heeds_pure ((locked.next fun _ => rfl).next fun _ => rfl)

/-! ## Announcements -/

/-- The mark of an announcement costs nothing, and fails only with the store. -/
theorem heeds_storeMark (i : Incident) (now : Instant) (charged : l.Charged base {}) :
    (storeMark i now).run.Heeds ledger Careful (fun
      | .ok _ => Charged base {}
      | .error error => fun _ => ∃ cause, error = .persistence cause) l := by
  have locked : (ledger.next l (.lock i.releaseKey) ()).Charged base {} :=
    charged.next fun _ => rfl
  refine ⟨trivial, fun _ => ⟨trivial, fun answer => ?_⟩⟩
  cases answer with
  | ok stored =>
      refine ⟨⟨stored, knows_read, id⟩, fun answer' => ?_⟩
      cases answer' with
      | ok written =>
          have marked := (locked.next (r := .read i.id) (a := .ok stored) fun _ => rfl).next
            (r := .update { stored with lastAlerted := some now }) (a := .ok ())
            (charge_of_same_status knows_read rfl)
          exact ⟨trivial, fun _ => marked.next fun _ => rfl⟩
      | error error => exact ⟨trivial, fun _ => ⟨error, rfl⟩⟩
  | error error =>
      cases error with
      | notFound id =>
          exact ⟨trivial, fun _ => (locked.next fun _ => rfl).next fun _ => rfl⟩
      | backend text => exact ⟨trivial, fun _ => ⟨_, rfl⟩⟩

/-- What an announcement charges, by what it came to. -/
def AnnouncedFor {α : Type} (base : Account → Int) : Except EngineError α → Ledger → Prop
  | .ok _, l => l.Charged base { alertsSent := 1 }
  | .error (.delivery _), l => l.Charged base { alertFailures := 1 }
  | .error _, _ => True

theorem heeds_markAlerted (e : Engine) (i : Incident) (kind : AlertKind) (now : Instant)
    (charged : l.Charged base {}) :
    (e.markAlerted i kind now).Heeds ledger Careful
      (fun result => AnnouncedFor base result.2) l := by
  unfold markAlerted
  refine Program.heeds_bind ((heeds_storeMark i now charged).mono fun result l' marks => ?_)
  cases result with
  | ok marked =>
      have charged' : l'.Charged base {} := marks
      refine ⟨fun _ => trivial, fun _ => ⟨trivial, fun _ => Charged.next ?_ fun _ => rfl⟩⟩
      intro account
      refine (congrArg (· + _) (charged' account)).trans ?_
      cases account <;> cases kind <;>
        simp [charge, Measure.amountIn, Account.series, SweepReport.amount]
  | error error =>
      obtain ⟨cause, rfl⟩ := marks
      trivial

theorem heeds_announce (e : Engine) (i : Incident) (kind : AlertKind) (now : Instant)
    (charged : l.Charged base {}) :
    (e.announce i kind now).Heeds ledger Careful (fun result => AnnouncedFor base result.2) l := by
  unfold announce
  refine Program.heeds_bind ⟨trivial, fun answer => ?_⟩
  cases answer with
  | ok delivered => exact heeds_markAlerted e i kind now (charged.next fun _ => rfl)
  | error text =>
      refine ⟨fun _ => trivial, fun _ => ⟨trivial, fun _ => Charged.next ?_ fun _ => rfl⟩⟩
      intro account
      refine (congrArg (· + _ + _) (charged account)).trans ?_
      cases account <;> simp [charge, Measure.amountIn, Account.series, SweepReport.amount]

/-- What the end of an alert charges, by whether it was announced. -/
def AlertedFor (base : Account → Int) : Except EngineError Bool → Ledger → Prop
  | .ok false, l => l.Charged base {}
  | result, l => AnnouncedFor base result l

theorem AnnouncedFor.alerted {result : Except EngineError Unit}
    (announced : AnnouncedFor base result l) : AlertedFor base (result.map fun _ => true) l := by
  cases result with
  | ok done => exact announced
  | error error => cases error <;> exact announced

theorem heeds_alertOpen (e : Engine) (i : Incident) (now : Instant) (charged : l.Charged base {}) :
    (e.alertOpen i now).Heeds ledger Careful (fun result => AlertedFor base result.2) l := by
  unfold alertOpen
  split
  · exact Program.heeds_bind ((heeds_announce e i .opened now charged).mono
      fun _ _ announced => announced.alerted)
  · exact charged

theorem heeds_alertResolved (e : Engine) (i : Incident) (now : Instant)
    (charged : l.Charged base {}) :
    (e.alertResolved i now).Heeds ledger Careful (fun result => AlertedFor base result.2) l := by
  unfold alertResolved
  split
  · exact Program.heeds_bind ((heeds_announce e i .resolved now charged).mono
      fun _ _ announced => announced.alerted)
  · exact charged

/-! ## Reports -/

/-- A report after so many visits balances with the ledger, and counts no visit twice. -/
structure Balanced (examined visited : Nat) (report : SweepReport) (l : Ledger) : Prop where
  examined : report.examined = examined
  charges : ∀ account, l.charges account = report.amount account
  settled : report.resolved + report.skipped ≤ visited
  announced : report.alertsSent + report.alertFailures + report.skipped ≤ visited

/-- The end of an alert is counted, where the visit has been counted by what was resolved. -/
theorem heeds_countAlert {report : SweepReport} {result : Except EngineError Bool}
    {examined visited : Nat} (alerted : AlertedFor base result l)
    (same : report.examined = examined) (charges : ∀ account, base account = report.amount account)
    (settled : report.resolved + report.skipped ≤ visited + 1)
    (announced : report.alertsSent + report.alertFailures + report.skipped ≤ visited) :
    Work.Heeds ledger Careful (Balanced examined (visited + 1)) (countAlert report result) l := by
  have adds : ∀ part report' : SweepReport, l.Charged base part →
      (∀ account, report.amount account + part.amount account = report'.amount account) →
      ∀ account, l.charges account = report'.amount account := by
    intro part report' charged sums account
    rw [charged account, charges account]
    exact_mod_cast sums account
  unfold countAlert
  split
  · refine Work.heeds_pure ⟨same, adds _ _ alerted ?_, settled, ?_⟩
    · intro account
      cases account <;> rfl
    · dsimp only
      omega
  · refine Work.heeds_pure ⟨same, adds _ _ alerted ?_, settled, Nat.le_succ_of_le announced⟩
    intro account
    cases account <;> rfl
  · refine Work.heeds_pure ⟨same, adds _ _ alerted ?_, settled, ?_⟩
    · intro account
      cases account <;> rfl
    · dsimp only
      omega
  · trivial

theorem heeds_visit (e : Engine) (now : Instant) (listed : Incident) {report : SweepReport}
    {examined visited : Nat} (balanced : Balanced examined visited report l) :
    Work.Heeds ledger Careful (Balanced examined (visited + 1)) (e.visit now report listed) l := by
  obtain ⟨same, charges, settled, announced⟩ := balanced
  unfold visit
  refine Work.heeds_bind ((heeds_examine e now listed (charged_nothing l)).mono ?_)
  have skips : ∀ {l' : Ledger}, l'.Charged l.charges {} →
      Balanced examined (visited + 1) { report with skipped := report.skipped + 1 } l' := by
    intro l' charged
    refine ⟨same, fun account => ?_, ?_, ?_⟩
    · rw [charged account, charges account]
      cases account <;> simp [SweepReport.amount]
    · dsimp only
      omega
    · dsimp only
      omega
  rintro (_ | ⟨i, verdict⟩) l' charged
  · exact Work.heeds_pure (skips charged)
  cases verdict with
  | skipped => exact Work.heeds_pure (skips charged)
  | unresolved =>
      refine Work.heeds_lift ((heeds_alertOpen e i now (charged_nothing l')).mono ?_)
      intro result l'' alerted
      refine heeds_countAlert alerted same (fun account => ?_) (Nat.le_succ_of_le settled) announced
      rw [show l'.Charged l.charges {} from charged, charges account]
      cases account <;> simp [SweepReport.amount]
  | resolved =>
      refine Work.heeds_lift ((heeds_alertResolved e i now (charged_nothing l')).mono ?_)
      intro result l'' alerted
      refine heeds_countAlert alerted same (fun account => ?_) ?_ announced
      · rw [show l'.Charged l.charges { resolved := 1 } from charged, charges account]
        cases account <;> simp [SweepReport.amount]
      · dsimp only
        omega

/-- After all visits, the report balances with the ledger. -/
theorem heeds_visits (e : Engine) (now : Instant) (found : List Incident)
    (nothing : l.Charged (fun _ => 0) {}) :
    Work.Heeds ledger Careful (Balanced found.length found.length)
      (found.foldlM (e.visit now) { examined := found.length }) l := by
  have start : Balanced found.length 0 { examined := found.length } l := by
    refine ⟨rfl, fun account => ?_, Nat.le_refl 0, Nat.le_refl 0⟩
    rw [nothing account]
    cases account <;> rfl
  have visits := Work.heeds_foldlM (Balanced found.length)
    (fun listed balanced => heeds_visit e now listed balanced) found start
  rwa [Nat.zero_add] at visits

/-! ## Sweeps -/

/-- What a sweep may ask for: with care, and for the locks to be pruned. -/
def SweepCareful (l : Ledger) (r : Request) : Prop :=
  r = .pruneLocks ∨ Careful l r

/-- The report of a sweep balances with its ledger. -/
theorem heeds_sweep (e : Engine) (now : Instant) :
    Work.Heeds ledger SweepCareful (fun report => Balanced report.examined report.examined report)
      (e.sweep now) {} := by
  unfold sweep
  refine Work.heeds_bind ((Work.heeds_listFrom (Charged (fun _ => 0) {}) (fun _ _ => Or.inr trivial)
    (fun p page charged => charged.next fun _ => rfl) _ (charged_nothing {})).mono ?_)
  intro found l nothing
  refine Work.heeds_bind (Work.Heeds.mono
    (Program.Heeds.loosen (heeds_visits e now found nothing) fun _ _ => Or.inr) ?_)
  rintro report l' ⟨examined, charges, settled, announced⟩
  refine Work.heeds_ask (Or.inl rfl) fun _ => Work.heeds_checked fun left _ => ?_
  have gauge := Account.not_mem_series (s := .activeIncidents) rfl
  have latency := Account.not_mem_series (s := .sweepLatency) rfl
  refine Work.heeds_ask (Or.inr gauge) fun _ => Work.heeds_ask (Or.inr fun _ => trivial) fun _ => ?_
  refine Work.heeds_pure ⟨rfl, fun account => ?_, ?_, ?_⟩
  · refine Eq.trans ?_ (charges account)
    simp [ledger, Ledger.next, charge, Measure.amountIn, latency account]
  · rw [examined]
    exact settled
  · rw [examined]
    exact announced

end Engine

end IncidentWatch

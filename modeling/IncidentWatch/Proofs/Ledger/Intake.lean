import IncidentWatch.Proofs.Ledger.Batch

/-!
# The intake of batches

What becomes of batches is told by the metrics and by the store: that a batch was received, that
it was dropped and for which reason, that it created an incident or was merged into one, and how
many incidents there are. Each of these is an account (`Intake`), which a batch changes by what it
came to (`Fate.amount`).

Every answered request has a charge on each account (`Intake.charge`), and the balance of the
account changes by it (`intake_answered`). What was charged to an operation so far is observed as
its tally.
-/

set_option autoImplicit false

namespace IncidentWatch

/-! ## What becomes of a batch -/

/-- What becomes of a batch. -/
inductive Fate where
  | skipped (reason : SkipReason)
  | created
  | merged
  | failed
  deriving DecidableEq

/-- The fate of a batch, by its result. -/
def Fate.of : Except EngineError BatchOutcome → Fate
  | .ok (.skipped reason) => .skipped reason
  | .ok (.created _) => .created
  | .ok (.merged _) => .merged
  | .error _ => .failed

/-- Where it is told what becomes of batches. -/
inductive Intake where
  /-- The batches counted as received. -/
  | received
  /-- The batches counted as dropped for a reason. -/
  | dropped (reason : SkipReason)
  /-- The incidents counted as created. -/
  | created
  /-- The incidents counted as merged into. -/
  | merged
  /-- The incidents in the store. -/
  | stored
  deriving DecidableEq

/-- How much a batch of a fate adds to an account. -/
def Fate.amount : Fate → Intake → Nat
  | _, .received => 1
  | .skipped reason, .dropped other => if reason = other then 1 else 0
  | .created, .created => 1
  | .created, .stored => 1
  | .merged, .merged => 1
  | _, _ => 0

/-- What an operation adds to an account by the time it ends: a sweep nothing. -/
def Interleaving.Outcome.amount : Interleaving.Outcome → Intake → Nat
  | .batch result => (Fate.of result).amount
  | .sweep _ => fun _ => 0

/-! ## Charges -/

/-- Whether an account is kept by a series. -/
def Series.isFiled : Series → Bool
  | .batchesReceived => true
  | .batchesDropped _ => true
  | .incidentsCreated => true
  | .incidentsMerged => true
  | _ => false

namespace Intake

/-- The series that an account is kept by. -/
def series : Intake → List Series
  | .received => [.batchesReceived]
  | .dropped reason => [.batchesDropped reason]
  | .created => [.incidentsCreated]
  | .merged => [.incidentsMerged]
  | .stored => []

theorem nodup_series (account : Intake) : account.series.Nodup := by
  cases account <;> simp [series]

theorem not_mem_series {s : Series} (elsewhere : s.isFiled = false) (account : Intake) :
    s ∉ account.series := by
  cases account <;> simp only [series, List.mem_singleton, List.not_mem_nil, not_false_eq_true] <;>
    rintro rfl <;> cases elsewhere

/-- What an answered request adds to an account. -/
def charge : (r : Request) → r.Answer → Intake → Int
  | .create _, .ok _, .stored => 1
  | .measure m, _, account => m.amountIn account.series
  | _, _, _ => 0

end Intake

namespace Request

/-- The metrics of the accounts are only counted up. -/
def OnlyCounts : Request → Prop
  | .measure m => ∀ account : Intake, m.OnlyAdds account.series
  | _ => True

/-- A request that adds to no account, whatever the answer. -/
def FilesNothing : Request → Prop
  | .create _ => False
  | .measure m => ∀ account : Intake, m.amountIn account.series = 0 ∧ m.OnlyAdds account.series
  | _ => True

variable {r : Request}

theorem FilesNothing.onlyCounts (nothing : r.FilesNothing) : r.OnlyCounts := by
  cases r with
  | measure m => exact fun account => (nothing account).2
  | _ => trivial

theorem FilesNothing.charge (nothing : r.FilesNothing) (a : r.Answer) (account : Intake) :
    Intake.charge r a account = 0 := by
  cases r with
  | create i => exact nothing.elim
  | measure m => exact (nothing account).1
  | _ => rfl

theorem Builds.filesNothing (builds : r.Builds) : r.FilesNothing := by
  cases r with
  | create i => exact builds.elim
  | measure m => exact builds.elim
  | _ => trivial

theorem filesNothing_add {s : Series} (elsewhere : s.isFiled = false) (amount : Nat) :
    (Request.measure (.add s amount)).FilesNothing :=
  fun account => ⟨if_neg (Intake.not_mem_series elsewhere account), trivial⟩

theorem filesNothing_set {s : Series} (elsewhere : s.isFiled = false) (value : Int) :
    (Request.measure (.set s value)).FilesNothing :=
  fun account => ⟨rfl, Intake.not_mem_series elsewhere account⟩

end Request

/-! ## Balances -/

namespace Interleaving

/-- The balance of an account. -/
def Situation.intake (s : Situation) : Intake → Int
  | .stored => s.store.size
  | account => (metricsOf s.history).total account.series

variable {c : Collaborators} {s : Situation} {before after : Store} {t : Nat} {r : Request}
  {a : r.Answer}

/-- The incidents in the store are more by the charge. -/
theorem size_served (served : serve c before r = some (a, after)) :
    (after.size : Int) = before.size + Intake.charge r a .stored := by
  cases r with
  | create i =>
      rcases serve_create served with ⟨rfl, created⟩ | ⟨error, rfl, rfl⟩
      · rw [Store.size_of_create created]
        rfl
      · exact (Int.add_zero _).symm
  | update i =>
      rcases serve_update served with ⟨rfl, updated⟩ | ⟨error, rfl, rfl⟩
      · rw [Store.size_of_ids_eq (Store.ids_of_update updated)]
        exact (Int.add_zero _).symm
      · exact (Int.add_zero _).symm
  | read id =>
      obtain ⟨rfl, -⟩ := serve_read served
      exact (Int.add_zero _).symm
  | list f p =>
      obtain ⟨rfl, -⟩ := serve_list served
      exact (Int.add_zero _).symm
  | measure m =>
      cases served
      cases m <;> exact (Int.add_zero _).symm
  | _ =>
      cases served
      exact (Int.add_zero _).symm

/-- What is kept by the metrics is more by the charge. -/
theorem total_counted {m : Metrics} {account : Intake} (counts : r.OnlyCounts)
    (kept : account ≠ .stored) :
    (m.asked r).total account.series = m.total account.series + Intake.charge r a account := by
  cases r with
  | measure measure =>
      rw [Metrics.asked, Metrics.total_record account.nodup_series (counts account)]
      rfl
  | create i =>
      cases a with
      | error error => exact (Int.add_zero _).symm
      | ok done =>
          cases account with
          | stored => exact absurd rfl kept
          | _ => exact (Int.add_zero _).symm
  | _ => exact (Int.add_zero _).symm

/-- When a request is answered, each balance changes by the charge. -/
theorem intake_answered (served : serve c s.store r = some (a, after)) (counts : r.OnlyCounts)
    (account : Intake) :
    (s.answered t r a after).intake account = s.intake account + Intake.charge r a account := by
  cases account with
  | stored => exact size_served served
  | _ => exact total_counted counts nofun

/-- Beginnings and ends change no balance. -/
theorem intake_note (what : Happening) (apart : ∀ r a, what ≠ .answered r a)
    (account : Intake) : (s.note t what).intake account = s.intake account := by
  cases what with
  | answered r a => exact absurd rfl (apart r a)
  | _ => cases account <;> rfl

end Interleaving

/-! ## Tallies -/

/-- Adds up what an operation is charged for. -/
def tally : Observer (Intake → Int) :=
  ⟨fun _ => 0, fun sums r a account => sums account + Intake.charge r a account⟩

/-- A tally has what a batch of a fate adds to the accounts. -/
def Fate.Tallied (fate : Fate) (sums : Intake → Int) : Prop :=
  ∀ account, sums account = fate.amount account

namespace Fate.Tallied

variable {fate later : Fate} {sums : Intake → Int} {r : Request} {a : r.Answer}

/-- A charge leads from one fate to another. -/
theorem next (tallied : fate.Tallied sums)
    (adds : ∀ account,
      (fate.amount account : Int) + Intake.charge r a account = later.amount account) :
    later.Tallied (tally.next sums r a) :=
  fun account => (congrArg (· + _) (tallied account)).trans (adds account)

/-- Answers without a charge. -/
theorem free (tallied : fate.Tallied sums) (nothing : ∀ account, Intake.charge r a account = 0) :
    fate.Tallied (tally.next sums r a) :=
  tallied.next fun account => by rw [nothing, Int.add_zero]

end Fate.Tallied

end IncidentWatch

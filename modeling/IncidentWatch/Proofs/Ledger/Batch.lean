import IncidentWatch.Proofs.Course.Observer
import IncidentWatch.Proofs.Ledger.Accounts

/-!
# What batches count

A batch counts that it was received, what was recognised in it and what became of it. No
account of sweeps is kept by any of these series (`heeds_measures`), so batches may run beside
a sweep and leave its accounts alone.
-/

set_option autoImplicit false

namespace IncidentWatch

open Interleaving (Operation)

/-- Observes nothing. -/
def silent : Observer Unit :=
  ⟨(), fun _ _ _ => ()⟩

/-- A request that no account is charged for by the metrics. -/
def Request.CountsElsewhere : Request → Prop
  | .measure m => ∀ account : Account, m.amountIn account.series = 0 ∧ m.OnlyAdds account.series
  | _ => True

theorem countsElsewhere_add {s : Series} (elsewhere : s.isAccounted = false) (amount : Nat) :
    (Request.measure (.add s amount)).CountsElsewhere :=
  fun account => ⟨if_neg (account.not_mem_series elsewhere), trivial⟩

/-- What building a candidate asks for. -/
def Request.Builds : Request → Prop
  | .rollout _ _ _ => True
  | .freshId => True
  | .log _ => True
  | _ => False

theorem Request.Builds.countsElsewhere {r : Request} (builds : r.Builds) : r.CountsElsewhere := by
  cases r with
  | measure m => exact builds.elim
  | _ => trivial

namespace Engine

/-- What operations may ask for: batches only for what counts elsewhere. -/
def MeasuresOf : Operation → Unit → Request → Prop
  | .batch _ _, _, r => r.CountsElsewhere
  | .sweep _, _, _ => True

variable {events : List Event} {now : Instant}

theorem measures_skip (e : Engine) (reason : SkipReason) (event : Option Event) (detail : String) :
    Work.Heeds silent (MeasuresOf (.batch events now)) (fun _ _ => True)
      (liftM (e.skip reason event detail)) () := by
  exact ⟨countsElsewhere_add rfl 1, fun _ => ⟨trivial, fun _ => trivial⟩⟩

theorem asks_scope (e : Engine) (owner : OwnerRef) (first : Event) :
    (e.scope owner first).Heeds silent (fun _ r => r.Builds) (fun _ _ => True) () := by
  unfold scope
  split
  · refine Program.heeds_bind ⟨trivial, fun answer => ?_⟩
    cases answer with
    | error error => exact ⟨trivial, fun _ => trivial⟩
    | ok health =>
        refine Program.heeds_bind ?_
        cases health.isFailing <;> trivial
  · trivial
  · trivial

/-- To build a candidate takes no more than the health of a deployment and fresh ids. -/
theorem asks_candidate (e : Engine) (recognized : List ClassifiedEvent) (owner : OwnerRef)
    (first : Event) :
    (e.candidate recognized owner first now).Heeds silent (fun _ r => r.Builds)
      (fun _ _ => True) () := by
  unfold candidate
  refine Program.heeds_bind ((asks_scope e owner first).mono fun object _ _ => ?_)
  refine Program.heeds_bind ⟨trivial, fun id => ?_⟩
  have fresh : ∀ _ : ClassifiedEvent, (Program.request .freshId).Heeds silent
      (fun _ r => r.Builds) (fun _ known => known = ()) () := fun _ => ⟨trivial, fun _ => rfl⟩
  refine Program.heeds_bind ((Program.heeds_mapM fresh recognized).mono fun ids _ _ => ?_)
  exact ⟨trivial, fun _ => trivial⟩

theorem measures_candidate (e : Engine) (recognized : List ClassifiedEvent) (owner : OwnerRef)
    (first : Event) :
    (e.candidate recognized owner first now).Heeds silent (MeasuresOf (.batch events now))
      (fun _ _ => True) () :=
  (asks_candidate e recognized owner first).loosen fun _ _ => Request.Builds.countsElsewhere

theorem measures_save {node : String} {pageSize : UInt64} {candidate : Incident}
    {owner : OwnerRef} :
    Work.Heeds silent (MeasuresOf (.batch events now)) (fun _ _ => True)
      (Saving.save node pageSize candidate owner now) () := by
  unfold Saving.save
  refine Work.heeds_underLock trivial (fun _ => trivial) ?_
  refine Work.heeds_bind ((Work.heeds_listFrom (fun _ => True) (fun _ _ => trivial)
    (fun _ _ _ => trivial) _ trivial).mono fun found _ _ => ?_)
  split
  · unfold Saving.create
    refine Work.heeds_bind ⟨trivial, fun answer => ?_⟩
    cases answer with
    | error error => trivial
    | ok stored => exact ⟨countsElsewhere_add rfl 1, fun _ => ⟨trivial, fun _ => trivial⟩⟩
  · unfold Saving.mergeInto
    refine Work.heeds_ask trivial fun _ => Work.heeds_update trivial ?_
    exact ⟨countsElsewhere_add rfl 1, fun _ => ⟨trivial, fun _ => trivial⟩⟩

theorem measures_handleBatch (e : Engine) (events : List Event) (now : Instant) :
    Work.Heeds silent (MeasuresOf (.batch events now)) (fun _ _ => True)
      (e.handleBatch events now) () := by
  unfold handleBatch
  refine Work.heeds_ask (countsElsewhere_add rfl 1) fun _ => ?_
  split
  · exact measures_skip e _ _ _
  split
  · exact measures_skip e _ _ _
  refine Work.heeds_ask trivial fun answer => ?_
  cases answer with
  | error error => exact measures_skip e _ _ _
  | ok owner =>
      dsimp only
      split
      · exact measures_skip e _ _ _
      refine Work.heeds_ask (countsElsewhere_add rfl _) fun _ => ?_
      refine Work.heeds_lift ((measures_candidate e _ owner _).mono fun built _ _ => ?_)
      exact Work.heeds_bind (measures_save.mono fun _ _ _ => trivial)

/-- Batches count nothing that an account of sweeps is kept by. -/
theorem heeds_measures (e : Engine) (op : Operation) :
    (op.program e).Heeds silent (MeasuresOf op) (fun _ _ => True) silent.start := by
  cases op with
  | batch events now =>
      exact Program.heeds_bind (Program.Heeds.mono (measures_handleBatch e events now)
        fun _ _ _ => trivial)
  | sweep now => exact Program.heeds_of_free (fun _ _ => trivial) _ _

end Engine

end IncidentWatch

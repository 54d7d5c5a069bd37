import Mathlib.Algebra.BigOperators.Intervals
import Mathlib.Algebra.Ring.Int.Defs
import IncidentWatch.Proofs.Course.Records
import IncidentWatch.Proofs.Interleaving.Sample
import IncidentWatch.Proofs.Ledger.Receipt

/-!
# The turnover of batches

A charge is due of an operation from when it is answered until the operation ends (`due`); then it
is settled, and what a batch has settled is told by its fate alone (`settled`). In every state the
balance of an account is what is settled and what is due (`Turnover`), whatever order operations
go on in. What is due of a batch that is cut off stays due for good, and of a sweep nothing ever
is.

So between two states in which no batch is under way, and if none was cut off in between, the
balances change by what the batches have settled that ended (`intake_later`). Then it is only to be
counted how many came to which fate.
-/

set_option autoImplicit false

namespace IncidentWatch.Interleaving

open IncidentWatch.Interleaving.System

/-! ## What has ended and what is due -/

/-- What became of the batches that ended. -/
def fates (history : List Entry) : List Fate :=
  history.filterMap fun entry =>
    match entry.what with
    | .ended _ (.batch result) => some (Fate.of result)
    | _ => none

/-- What the batches that ended have added to an account. -/
def settled (history : List Entry) (account : Intake) : Int :=
  ((fates history).map fun fate => (fate.amount account : Int)).sum

/-- A batch was begun under a number. -/
def isBatch (t : Nat) (history : List Entry) : Bool :=
  match operationOf t history with
  | some (.batch _ _) => true
  | _ => false

/-- What an operation was charged for without having ended. -/
def due (t : Nat) : List Entry → Intake → Int
  | [], _ => 0
  | entry :: earlier, account =>
    if entry.task = t then
      match entry.what with
      | .begun _ => 0
      | .answered r a => due t earlier account + Intake.charge r a account
      | .ended _ _ => 0
      | .stopped => due t earlier account
    else due t earlier account

section History

variable {t u : Nat} {what : Happening} {earlier : List Entry} {account : Intake}

theorem due_of_other (apart : u ≠ t) :
    due u (⟨t, what⟩ :: earlier) account = due u earlier account := by
  simp [due, apart.symm]

theorem due_begun {op : Operation} : due t (⟨t, .begun op⟩ :: earlier) account = 0 := by
  simp [due]

theorem due_answered {r : Request} {a : r.Answer} : due t (⟨t, .answered r a⟩ :: earlier) account =
    due t earlier account + Intake.charge r a account := by
  simp [due]

theorem due_ended {op : Operation} {outcome : Outcome} :
    due t (⟨t, .ended op outcome⟩ :: earlier) account = 0 := by
  simp [due]

theorem due_stopped : due t (⟨t, .stopped⟩ :: earlier) account = due t earlier account := by
  simp [due]

theorem isBatch_answered {r : Request} {a : r.Answer} :
    isBatch t (⟨t, .answered r a⟩ :: earlier) = isBatch t earlier := by
  simp [isBatch]

theorem isBatch_stopped : isBatch t (⟨t, .stopped⟩ :: earlier) = isBatch t earlier := by
  simp [isBatch, operationOf]

theorem settled_ended {op : Operation} {outcome : Outcome} :
    settled (⟨t, .ended op outcome⟩ :: earlier) account =
      outcome.amount account + settled earlier account := by
  cases outcome with
  | batch result => simp [settled, fates, Outcome.amount]
  | sweep result => simp [settled, fates, Outcome.amount]

theorem move_due {e : Engine} {s s' : System} (move : Move e s t s') (apart : u ≠ t) :
    due u s'.history account = due u s.history account := by
  cases move with
  | queued here asks new => rfl
  | _ => exact due_of_other apart

end History

/-- A sum in which one term changes. -/
theorem sum_range_of_apart {f g : Nat → Int} {t n : Nat} (below : t < n)
    (apart : ∀ u, u ≠ t → g u = f u) :
    ∑ u ∈ Finset.range n, g u = ∑ u ∈ Finset.range n, f u + (g t - f t) := by
  have member := Finset.mem_range.2 below
  have rest : ∑ u ∈ (Finset.range n).erase t, g u = ∑ u ∈ (Finset.range n).erase t, f u :=
    Finset.sum_congr rfl fun u among => apart u (Finset.ne_of_mem_erase among)
  rw [← Finset.add_sum_erase _ g member, ← Finset.add_sum_erase _ f member, rest]
  omega

/-! ## Along a schedule -/

/-- What all operations were charged for without having ended. -/
def System.dues (s : System) (account : Intake) : Int :=
  ∑ t ∈ Finset.range s.begun, due t s.history account

/-- Every charge is settled or due: of an operation under way all its charges are due, and nothing
is ever due from a sweep. -/
structure Turnover (s : System) : Prop where
  balance : ∀ account, s.intake account = settled s.history account + s.dues account
  underWay : ∀ t task, s.tasks t = some task → ∀ account,
    due t s.history account = tally.reading t s.history account
  sweeps : ∀ t, isBatch t s.history = false → ∀ account, due t s.history account = 0

section Moves

variable {e : Engine} {schedule : List Turn} {s s' : System} {t : Nat} {account : Intake}

theorem dues_begin (s : System) (op : Operation) (account : Intake) :
    (s.begin e op).dues account = s.dues account := by
  unfold System.dues
  show ∑ t ∈ Finset.range (s.begun + 1), due t (⟨s.begun, .begun op⟩ :: s.history) account = _
  rw [Finset.sum_range_succ, due_begun, Int.add_zero]
  exact Finset.sum_congr rfl fun u among => due_of_other (Nat.ne_of_lt (Finset.mem_range.1 among))

/-- What is noted of an operation changes what is due by what it changes for that operation. -/
theorem dues_noted {what : Happening} (grown : s'.history = ⟨t, what⟩ :: s.history)
    (goesOn : s'.begun = s.begun) (below : t < s.begun) :
    s'.dues account = s.dues account +
      (due t (⟨t, what⟩ :: s.history) account - due t s.history account) := by
  unfold System.dues
  rw [goesOn, grown]
  exact sum_range_of_apart below fun u apart => due_of_other apart

theorem dues_resume (op : Operation) (r : Request) (a : r.Answer) (store : Store)
    (rest : Program Outcome) (below : t < s.begun) (account : Intake) :
    (s.resume t op r a store rest).dues account = s.dues account + Intake.charge r a account := by
  have noted : (s.resume t op r a store rest).dues account = s.dues account +
      (due t (⟨t, .answered r a⟩ :: s.history) account - due t s.history account) :=
    dues_noted rfl rfl below
  rw [noted, due_answered]
  omega

theorem dues_leave (what : Happening) (below : t < s.begun) (account : Intake) :
    (s.leave t what).dues account = s.dues account +
      (due t (⟨t, what⟩ :: s.history) account - due t s.history account) :=
  dues_noted rfl rfl below

variable (turnover : Turnover (after e schedule))
include turnover

theorem Turnover.balance_move (move : Move e (after e schedule) t s') (account : Intake) :
    s'.intake account = settled s'.history account + s'.dues account := by
  have before := turnover.balance account
  have begun : ∀ {task}, (after e schedule).tasks t = some task → t < (after e schedule).begun :=
    (standing_after e schedule).steady.lt_begun
  cases move with
  | begun op =>
      rw [dues_begin]
      exact (intake_note (.begun op) (fun _ _ same => nomatch same) account).trans before
  | queued here asks new => exact before
  | @answered _ task r next c a store here asks granted served =>
      have counts := Engine.onlyCounts_of_tallies (may_after e.heeds_tally schedule here asks)
      rw [dues_resume _ _ _ _ _ (begun here), ← Int.add_assoc]
      exact (intake_answered served counts account).trans (congrArg (· + _) before)
  | @ended _ task outcome here finished =>
      -- All that was due of the operation is settled at once.
      have ends : tally.reading t (after e schedule).history account = outcome.amount account :=
        ends_after e.heeds_tally schedule here finished account
      rw [dues_leave _ (begun here), due_ended, turnover.underWay t task here, ends]
      refine (intake_note (.ended task.operation outcome) (fun _ _ same => nomatch same)
        account).trans ?_
      refine Eq.trans ?_ (congrArg (· + _) settled_ended.symm)
      omega
  | stopped here =>
      rw [dues_leave _ (begun here), due_stopped, Int.sub_self, Int.add_zero]
      exact (intake_note .stopped (fun _ _ same => nomatch same) account).trans before

/-- Of whoever made a move and is under way all charges are due. -/
theorem Turnover.underWay_move (move : Move e (after e schedule) t s') {task : Task}
    (here : s'.tasks t = some task) (account : Intake) :
    due t s'.history account = tally.reading t s'.history account := by
  have gone : ∀ what, ((after e schedule).leave t what).tasks t = none := fun what =>
    Function.update_self _ _ _
  cases move with
  | begun op => exact due_begun.trans (congrFun tally.reading_begun account).symm
  | queued here' asks new => exact turnover.underWay t _ here' account
  | @answered _ task' r next c a store here' asks granted served =>
      refine due_answered.trans (Eq.trans ?_ (congrFun tally.reading_answered account).symm)
      exact congrArg (· + _) (turnover.underWay t task' here' account)
  | ended here' finished => cases (gone _).symm.trans here
  | stopped here' => cases (gone _).symm.trans here

/-- A sweep that makes a move still owes nothing. -/
theorem Turnover.sweeps_move (move : Move e (after e schedule) t s')
    (other : isBatch t s'.history = false) (account : Intake) : due t s'.history account = 0 := by
  cases move with
  | begun op => exact due_begun
  | queued here asks new => exact turnover.sweeps t other account
  | @answered _ task r next c a store here asks granted served =>
      have before : isBatch t (after e schedule).history = false :=
        (isBatch_answered (r := r) (a := a)).symm.trans other
      have may := may_after e.heeds_tally schedule here asks
      have begun := (onCourse_after e schedule t).begun task here
      have nothing : r.FilesNothing := by
        cases op : task.operation with
        | batch events now => simp [isBatch, begun, op] at before
        | sweep now =>
            rw [op] at may
            exact may
      refine due_answered.trans ?_
      rw [turnover.sweeps t before account, Int.zero_add]
      exact nothing.charge a account
  | ended here finished => exact due_ended
  | stopped here =>
      exact due_stopped.trans (turnover.sweeps t (isBatch_stopped.symm.trans other) account)

theorem Turnover.move (move : Move e (after e schedule) t s') : Turnover s' := by
  refine ⟨fun account => turnover.balance_move move account, fun u task here account => ?_,
    fun u other account => ?_⟩
  · by_cases apart : u ≠ t
    · rw [move_tasks move apart] at here
      rw [move_due move apart, move_reading tally move apart]
      exact turnover.underWay u task here account
    · obtain rfl := not_not.1 apart
      exact turnover.underWay_move move here account
  · by_cases apart : u ≠ t
    · rw [isBatch, move_operationOf move apart] at other
      rw [move_due move apart]
      exact turnover.sweeps u other account
    · obtain rfl := not_not.1 apart
      exact turnover.sweeps_move move other account

end Moves

/-- Along every schedule, every charge is settled or due. -/
theorem turnover_after (e : Engine) (schedule : List Turn) : Turnover (after e schedule) := by
  refine after_moves (P := Turnover) ?_ (fun _ _ _ turnover move => turnover.move move) schedule
  refine ⟨fun account => ?_, fun _ _ here => (nomatch here), fun _ _ _ => rfl⟩
  cases account <;> rfl

/-! ## From one state to a later one -/

/-- The batch of a number is under way. -/
def System.batching (s : System) (t : Nat) : Bool :=
  match s.tasks t with
  | some ⟨.batch _ _, _, _⟩ => true
  | _ => false

/-- No batch is under way. -/
def System.Cleared (s : System) : Prop :=
  ∀ t < s.begun, s.batching t = false

/-- The last that happened to an operation is that it ended. -/
def hasEnded (t : Nat) : List Entry → Bool
  | [] => false
  | entry :: earlier =>
    if entry.task = t then
      match entry.what with
      | .ended _ _ => true
      | _ => false
    else hasEnded t earlier

/-- Every batch that got a number from the given one on has ended. -/
def System.EndedSince (s : System) (first : Nat) : Prop :=
  ∀ t < s.begun, first ≤ t → isBatch t s.history = true → hasEnded t s.history = true

instance (s : System) : Decidable s.Cleared :=
  inferInstanceAs (Decidable (∀ t < s.begun, s.batching t = false))

instance (s : System) (first : Nat) : Decidable (s.EndedSince first) :=
  inferInstanceAs (Decidable (∀ t < s.begun, first ≤ t → _ → _))

theorem due_of_hasEnded {t : Nat} {history : List Entry} (ended : hasEnded t history = true)
    (account : Intake) : due t history account = 0 := by
  induction history with
  | nil => rfl
  | cons entry earlier inductionHypothesis =>
      obtain ⟨u, what⟩ := entry
      by_cases same : u = t
      · subst same
        cases what with
        | ended op outcome => exact due_ended
        | _ => simp [hasEnded] at ended
      · rw [due_of_other (Ne.symm same)]
        simp only [hasEnded, if_neg same] at ended
        exact inductionHypothesis ended

/-- Of the operations of an earlier state, each is still the one that was begun under its number,
and what was due of those that were over is still due. -/
structure Later (s s' : System) : Prop where
  begun : s.begun ≤ s'.begun
  operations : ∀ t < s.begun, operationOf t s'.history = operationOf t s.history
  gone : ∀ t < s.begun, s.tasks t = none →
    s'.tasks t = none ∧ ∀ account, due t s'.history account = due t s.history account

theorem operationOf_move {e : Engine} {s s' : System} {t u : Nat} (move : Move e s t s')
    (below : u < s.begun) : operationOf u s'.history = operationOf u s.history := by
  by_cases apart : u ≠ t
  · exact move_operationOf move apart
  obtain rfl := not_not.1 apart
  cases move with
  | begun op => exact absurd below (Nat.lt_irrefl _)
  | queued here asks new => rfl
  | answered here asks granted served => exact operationOf_answered
  | _ => simp [System.leave, Situation.note, operationOf]

theorem Later.move {e : Engine} {s s' s'' : System} {t : Nat} (later : Later s s')
    (move : Move e s' t s'') : Later s s'' := by
  have below : ∀ {u}, u < s.begun → u < s'.begun := fun early =>
    Nat.lt_of_lt_of_le early later.begun
  refine ⟨Nat.le_trans later.begun ?_, fun u early => ?_, fun u early idle => ?_⟩
  · cases move with
    | begun op => exact Nat.le_succ _
    | _ => exact Nat.le_refl _
  · exact (operationOf_move move (below early)).trans (later.operations u early)
  · obtain ⟨gone, same⟩ := later.gone u early idle
    have apart : u ≠ t := by
      rintro rfl
      cases move with
      | begun op => exact absurd (below early) (Nat.lt_irrefl _)
      | queued here => cases gone.symm.trans here
      | answered here => cases gone.symm.trans here
      | ended here => cases gone.symm.trans here
      | stopped here => cases gone.symm.trans here
    rw [move_tasks move apart]
    exact ⟨gone, fun account => (move_due move apart).trans (same account)⟩

theorem later_after (e : Engine) (before during : List Turn) :
    Later (after e before) (after e (before ++ during)) := by
  induction during using List.reverseRecOn with
  | nil =>
      rw [List.append_nil]
      exact ⟨Nat.le_refl _, fun _ _ => rfl, fun _ _ gone => ⟨gone, fun _ => rfl⟩⟩
  | append_singleton earlier turn inductionHypothesis =>
      rw [← List.append_assoc, after_append]
      rcases step_cases e (after e (before ++ earlier)) turn with same | ⟨t, move⟩
      · show Later _ (step e (after e (before ++ earlier)) turn)
        rw [same]
        exact inductionHypothesis
      · exact inductionHypothesis.move move

section Increase

variable {e : Engine} {before during : List Turn}

/-- What was due of the operations before is what is due of them later, if no batch was under
way. -/
theorem due_later (cleared : (after e before).Cleared) {t : Nat}
    (early : t < (after e before).begun) (account : Intake) :
    due t (after e (before ++ during)).history account =
      due t (after e before).history account := by
  have later := later_after e before during
  cases here : (after e before).tasks t with
  | none => exact (later.gone t early here).2 account
  | some task =>
      -- Whatever was under way is a sweep, and goes on as one: nothing is due at either time.
      have begun := (onCourse_after e before t).begun task here
      have other : isBatch t (after e before).history = false := by
        have idle := cleared t early
        obtain ⟨op, rest, waiting⟩ := task
        cases op with
        | batch events now => simp [System.batching, here] at idle
        | sweep now => simp [isBatch, begun]
      have other' : isBatch t (after e (before ++ during)).history = false := by
        rwa [isBatch, later.operations t early]
      rw [(turnover_after e before).sweeps t other, (turnover_after e _).sweeps t other']

/-- While all batches that are begun end, nothing more becomes due. -/
theorem dues_later (cleared : (after e before).Cleared)
    (ended : (after e (before ++ during)).EndedSince (after e before).begun) (account : Intake) :
    (after e (before ++ during)).dues account = (after e before).dues account := by
  obtain ⟨more, begun⟩ := Nat.exists_eq_add_of_le (later_after e before during).begun
  have new : ∀ t < more,
      due ((after e before).begun + t) (after e (before ++ during)).history account = 0 := by
    intro t small
    cases batch : isBatch ((after e before).begun + t) (after e (before ++ during)).history with
    | false => exact (turnover_after e _).sweeps _ batch account
    | true => exact due_of_hasEnded (ended _ (by omega) (Nat.le_add_right _ _) batch) account
  unfold System.dues
  rw [begun, Finset.sum_range_add, Finset.sum_congr rfl fun t among =>
    due_later cleared (Finset.mem_range.1 among) account]
  rw [Finset.sum_eq_zero fun t among => new t (Finset.mem_range.1 among), Int.add_zero]

/-- The balances change by what the batches have added that ended. -/
theorem intake_later (cleared : (after e before).Cleared)
    (ended : (after e (before ++ during)).EndedSince (after e before).begun) (account : Intake) :
    (after e (before ++ during)).intake account - (after e before).intake account =
      settled (after e (before ++ during)).history account -
        settled (after e before).history account := by
  rw [(turnover_after e _).balance, (turnover_after e before).balance, dues_later cleared ended]
  omega

end Increase

/-! ## Counts of fates -/

variable {history : List Entry}

/-- An account that only one fate adds to counts the batches of that fate. -/
theorem settled_of_only {account : Intake} {fate : Fate}
    (only : ∀ other : Fate, other.amount account = if other = fate then 1 else 0) :
    settled history account = (fates history).count fate := by
  unfold settled
  induction fates history with
  | nil => rfl
  | cons other rest inductionHypothesis =>
      rw [List.map_cons, List.sum_cons, inductionHypothesis, only, List.count_cons]
      by_cases same : other = fate <;> simp [same, Int.add_comm]

theorem settled_dropped (reason : SkipReason) :
    settled history (.dropped reason) = (fates history).count (.skipped reason) :=
  settled_of_only fun other => by cases other <;> simp [Fate.amount]

theorem settled_created : settled history .created = (fates history).count .created :=
  settled_of_only fun other => by cases other <;> rfl

theorem settled_stored : settled history .stored = (fates history).count .created :=
  settled_of_only fun other => by cases other <;> rfl

theorem settled_merged : settled history .merged = (fates history).count .merged :=
  settled_of_only fun other => by cases other <;> rfl

/-- Whatever becomes of a batch, it was received, and has one fate. -/
theorem amount_received (fate : Fate) : (fate.amount .received : Int) =
    (SkipReason.all.map fun reason => (fate.amount (.dropped reason) : Int)).sum +
      fate.amount .created + fate.amount .merged + (if fate = .failed then 1 else 0 : Nat) := by
  cases fate with
  | skipped reason => cases reason <;> rfl
  | _ => rfl

theorem settled_received : settled history .received =
    (SkipReason.all.map fun reason => settled history (.dropped reason)).sum +
      settled history .created + settled history .merged + (fates history).count .failed := by
  unfold settled
  induction fates history with
  | nil => rfl
  | cons fate rest inductionHypothesis =>
      simp only [SkipReason.all, List.map_cons, List.map_nil, List.sum_cons, List.sum_nil,
        List.count_cons, beq_iff_eq, amount_received fate] at inductionHypothesis ⊢
      omega

/-! ## The account of batches -/

/-- How many batches have ended with a fate. -/
def Situation.came (s : Situation) (fate : Fate) : Int :=
  (fates s.history).count fate

/-- Batches are accounted for. Where no batch was under way and all that were begun since have
ended, whatever sweeps did meanwhile, in whatever order they went on and whatever the collaborators
answered, the batches counted as received are as many more as those counted as dropped, as
incidents created and as incidents merged into, and those that failed. Each batch that was dropped
is counted for the reason that it came back with, and one that has created an incident or was
merged into one for just that; and the store has as many incidents more as were created. -/
theorem batches_are_accounted_for (e : Engine) (before during : List Turn)
    (cleared : (after e before).Cleared)
    (ended : (after e (before ++ during)).EndedSince (after e before).begun) :
    let s := after e before
    let s' := after e (before ++ during)
    (s'.intake .received - s.intake .received =
      (SkipReason.all.map fun reason =>
        s'.intake (.dropped reason) - s.intake (.dropped reason)).sum +
      (s'.intake .created - s.intake .created) + (s'.intake .merged - s.intake .merged) +
      (s'.came .failed - s.came .failed)) ∧
    (∀ reason, s'.intake (.dropped reason) - s.intake (.dropped reason) =
      s'.came (.skipped reason) - s.came (.skipped reason)) ∧
    s'.intake .created - s.intake .created = s'.came .created - s.came .created ∧
    s'.intake .stored - s.intake .stored = s'.came .created - s.came .created ∧
    s'.intake .merged - s.intake .merged = s'.came .merged - s.came .merged := by
  intro s s'
  have increase := intake_later cleared ended
  refine ⟨?_, fun reason => ?_, ?_, ?_, ?_⟩
  · simp only [s, s', increase, settled_received, Situation.came]
    simp only [SkipReason.all, List.map_cons, List.map_nil, List.sum_cons, List.sum_nil]
    omega
  · rw [increase, settled_dropped, settled_dropped]
    rfl
  · rw [increase, settled_created, settled_created]
    rfl
  · rw [increase, settled_stored, settled_stored]
    rfl
  · rw [increase, settled_merged, settled_merged]
    rfl

/-- One incident is created. -/
def oneCreated : List Turn :=
  Sample.running 0 (.batch [Sample.event "web-0" "OOMKilled"] .epoch) "a" 14

/-- Two batches go on in turns, of which one is merged and one creates an incident; then one is
dropped and one is refused by the store, while a sweep is under way. -/
def fourBatches : List Turn :=
  [.begin (.batch [Sample.event "web-1" "OOMKilled"] .epoch),
    .begin (.batch [Sample.event "web-2" "BackOff"] .epoch)] ++
  Sample.going 1 "b" 6 ++ Sample.going 2 "c" 6 ++ Sample.going 1 "b" 9 ++ Sample.going 2 "c" 9 ++
  [.begin (.sweep Sample.settled), .proceed 3 (Sample.willing "")] ++
  Sample.running 4 (.batch [Sample.event "web-3" "Scheduled"] .epoch) "" 6 ++
  Sample.runningWith { Sample.willing "d" with refusal := some (.backend "down") } 5
    (.batch [Sample.event "web-4" "OOMKilled"] .epoch) 14

theorem batches_are_accounted_for_beside_a_sweep :
    let s := after Sample.engine oneCreated
    let s' := after Sample.engine (oneCreated ++ fourBatches)
    s'.intake .received - s.intake .received = 4 ∧
    s'.intake (.dropped .unclassified) - s.intake (.dropped .unclassified) = 1 ∧
    s'.intake .created - s.intake .created = 1 ∧
    s'.intake .stored - s.intake .stored = 1 ∧
    s'.intake .merged - s.intake .merged = 1 := by
  obtain ⟨received, dropped, created, stored, merged⟩ :=
    batches_are_accounted_for Sample.engine oneCreated fourBatches (by decide +kernel)
      (by decide +kernel)
  have before : fates (after Sample.engine oneCreated).history = [.created] := by decide +kernel
  have later : fates (after Sample.engine (oneCreated ++ fourBatches)).history =
      [.failed, .skipped .unclassified, .created, .merged, .created] := by decide +kernel
  simp only [Situation.came, before, later] at received dropped created stored merged
  refine ⟨?_, dropped _, created, stored, merged⟩
  rw [received, created, merged]
  simp only [dropped]
  decide

end IncidentWatch.Interleaving

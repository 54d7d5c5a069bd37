import IncidentWatch.Proofs.Interleaving.Sample
import IncidentWatch.Proofs.Interleaving.Waiting

/-!
# Endless schedules

A schedule without an end is fair if every operation gets a turn again and again for as
long as it has no delivery in flight: the store and the cluster answer at last, and the
notifier may stay silent. Then every operation ends or comes to a delivery
(`Fair.ends_or_delivers`), and a batch, which delivers nothing, ends.

The argument has three steps. Whoever can take a step takes one at last
(`Fair.moves_of_able`), since the others leave it able to. So whoever holds a lock gives it
up at last (`Fair.gives_up`), by induction on what is left of it, as it waits for nobody
meanwhile. And so whoever waits for a lock gets it (`Fair.moves_of_waiting`), by induction
on how many are ahead in line, who get no more.
-/

set_option autoImplicit false

namespace IncidentWatch.Interleaving

open IncidentWatch.Interleaving.System

variable {e : Engine} {turns : Nat → Turn} {s s' : System} {t u n : Nat} {task : Task}
  {release : ReleaseKey}

namespace System

/-- The system after so many turns of an endless schedule. -/
def during (e : Engine) (turns : Nat → Turn) (n : Nat) : System :=
  after e ((List.range n).map turns)

theorem during_succ (e : Engine) (turns : Nat → Turn) (n : Nat) :
    during e turns (n + 1) = step e (during e turns n) (turns n) := by
  simp only [during, List.range_succ, List.map_append, after_append]
  rfl

end System

/-- Every operation goes on again and again, for as long as it has no delivery in flight. -/
def Fair (e : Engine) (turns : Nat → Turn) : Prop :=
  ∀ t n, ∃ m, n ≤ m ∧ ((during e turns m).tasks t = none ∨ (during e turns m).Delivers t ∨
    ∃ c, turns m = .proceed t c)

/-- An operation makes a move at a turn. -/
def MovesAt (e : Engine) (turns : Nat → Turn) (t m : Nat) : Prop :=
  Move e (during e turns m) t (during e turns (m + 1))

theorem steady_during (e : Engine) (turns : Nat → Turn) (n : Nat) :
    Steady (custody e) (during e turns n) :=
  steady_custody e _

/-- What the moves of the others keep holds until an operation moves. -/
theorem holds_until_moves {P : System → Prop}
    (kept : ∀ {s u s'}, Move e s u s' → t ≠ u → P s → P s') (start : P (during e turns n))
    (rests : ∀ m, n ≤ m → P (during e turns m) → ¬ MovesAt e turns t m) :
    ∀ m, n ≤ m → P (during e turns m) := by
  intro m later
  induction m, later using Nat.le_induction with
  | base => exact start
  | succ m later inductionHypothesis =>
      rw [during_succ]
      rcases step_cases e (during e turns m) (turns m) with same | ⟨u, move⟩
      · rw [same]
        exact inductionHypothesis
      · refine kept move ?_ inductionHypothesis
        rintro rfl
        refine rests m later inductionHypothesis ?_
        unfold MovesAt
        rw [during_succ]
        exact move

/-- Whoever gives up a request is ahead of nobody any more. -/
theorem ahead_release_sublist (locks : ReleaseLocks Nat) (apart : t ≠ u) :
    ((locks.release u).ahead t release).Sublist (locks.ahead t release) := by
  rw [ReleaseLocks.ahead_release apart.symm]
  exact List.filter_sublist

theorem ahead_locksAfter_sublist (locks : ReleaseLocks Nat) (apart : t ≠ u) (r : Request) :
    ((locksAfter locks u r).ahead t release).Sublist (locks.ahead t release) := by
  cases r with
  | unlock given => exact ahead_release_sublist locks apart
  | _ => exact List.Sublist.refl _

/-- Others give up requests ahead of an operation, and add none. -/
theorem ahead_sublist (move : Move e s u s') (apart : t ≠ u) (asks : s.locks.Asks t) :
    (s'.locks.ahead t release).Sublist (s.locks.ahead t release) := by
  cases move with
  | begun op => exact List.Sublist.refl _
  | queued here new waits =>
      show ((s.locks.request u _).ahead t release).Sublist _
      rw [ReleaseLocks.ahead_request asks]
  | answered here asks granted served => exact ahead_locksAfter_sublist s.locks apart _
  | ended here finished => exact ahead_release_sublist s.locks apart
  | stopped here => exact ahead_release_sublist s.locks apart

/-- After a move of its own an operation is over, stands in line, or was answered. -/
theorem tasks_of_moves {m : Nat} (here : (during e turns m).tasks t = some task)
    (moves : MovesAt e turns t m) :
    (during e turns (m + 1)).tasks t = none ∨
    (task.waiting = false ∧
      (during e turns (m + 1)).tasks t = some { task with waiting := true }) ∨
    ∃ r next a, task.rest = .ask r next ∧
      (during e turns (m + 1)).tasks t = some ⟨task.operation, next a, false⟩ := by
  have begun := (steady_during e turns m).lt_begun here
  rcases move_cases moves here begun with
    ⟨what, same⟩ | ⟨asked, next, asks, new, same⟩ | ⟨r, next, a, store, asks, same⟩
  · rw [same]
    exact Or.inl (Function.update_self t _ _)
  · rw [same]
    exact Or.inr (Or.inl ⟨new, Function.update_self t _ _⟩)
  · rw [same]
    exact Or.inr (Or.inr ⟨r, next, a, asks, Function.update_self t _ _⟩)

namespace Fair

variable (fair : Fair e turns)
include fair

/-! ## Whoever is able to -/

/-- Whoever can take a step takes one at last, and what the others keep holds still then. -/
theorem moves_of_able {P : System → Prop}
    (kept : ∀ {s u s'}, Move e s u s' → t ≠ u → P s → P s') (start : P (during e turns n))
    (able : Able (during e turns n) t task) (calm : ¬ (during e turns n).Delivers t) :
    ∃ m, n ≤ m ∧ (P (during e turns m) ∧ (during e turns m).tasks t = some task) ∧
      MovesAt e turns t m := by
  by_contra never
  have stays : ∀ m, n ≤ m → P (during e turns m) ∧ Able (during e turns m) t task :=
    holds_until_moves (P := fun s => P s ∧ Able s t task)
      (fun move apart holds => ⟨kept move apart holds.1, holds.2.other move apart⟩) ⟨start, able⟩
      fun m later holds moves => never ⟨m, later, ⟨holds.1, holds.2.here⟩, moves⟩
  obtain ⟨m, later, gone | ⟨kind, view, delivers⟩ | ⟨c, turn⟩⟩ := fair t n
  · exact nomatch gone.symm.trans (stays m later).2.here
  · refine calm ⟨kind, view, ?_⟩
    unfold asks? at delivers ⊢
    rw [(stays m later).2.here] at delivers
    rw [able.here]
    exact delivers
  · refine never ⟨m, later, ⟨(stays m later).1, (stays m later).2.here⟩, ?_⟩
    unfold MovesAt
    rw [during_succ, turn]
    exact (stays m later).2.move c

/-! ## Whoever holds a lock -/

/-- Whoever holds a lock gives it up, or is answered and holds it still. -/
theorem gives_up_or_goes_on (here : (during e turns n).tasks t = some task)
    (holds : (during e turns n).locks.HoldsFor t release) :
    ∃ m, n ≤ m ∧ (¬ (during e turns m).locks.Asks t ∨
      ∃ r next a, task.rest = .ask r next ∧
        (during e turns m).tasks t = some ⟨task.operation, next a, false⟩ ∧
        (during e turns m).locks.HoldsFor t release) := by
  have calm := ((steady_during e turns n).able_of_holdsFor holds).2
  obtain ⟨m, later, ⟨holds', here'⟩, moves⟩ := fair.moves_of_able
    (P := fun s => s.locks.HoldsFor t release)
    (fun move apart holds => (move_spares move apart).holds _ holds) holds
    ⟨here, fun _ => ⟨release, holds⟩⟩ calm
  have steady := steady_during e turns m
  refine ⟨m + 1, Nat.le_succ_of_le later, ?_⟩
  rcases move_cases moves here' (steady.lt_begun here') with
    ⟨what, same⟩ | ⟨asked, next, asks, new, same⟩ | ⟨r, next, a, store, asks, same⟩
  · rw [same]
    exact Or.inl (ReleaseLocks.not_asks_release _ t)
  · exact absurd holds'.asks (steady.not_asks here' asks new)
  · have resumed : (during e turns (m + 1)).tasks t = some ⟨task.operation, next a, false⟩ := by
      rw [same]
      exact Function.update_self t _ _
    have locks : (during e turns (m + 1)).locks = locksAfter (during e turns m).locks t r := by
      rw [same]
      rfl
    rw [locks]
    cases r with
    | unlock given => exact Or.inl (ReleaseLocks.not_asks_release _ t)
    | _ => exact Or.inr ⟨_, next, a, asks, resumed, holds'⟩

/-- Whoever holds a lock gives it up at last. -/
theorem gives_up {op : Operation} {rest : Program Outcome} {waiting : Bool}
    (here : (during e turns n).tasks t = some ⟨op, rest, waiting⟩)
    (holds : (during e turns n).locks.HoldsFor t release) :
    ∃ m, n ≤ m ∧ ¬ (during e turns m).locks.Asks t := by
  induction rest generalizing n waiting with
  | done _ | halt _ =>
      obtain ⟨m, later, free | ⟨_, _, _, asks, -⟩⟩ := fair.gives_up_or_goes_on here holds
      · exact ⟨m, later, free⟩
      · cases asks
  | ask r next inductionHypothesis =>
      obtain ⟨m, later, free | ⟨_, _, a, asks, here', holds'⟩⟩ :=
        fair.gives_up_or_goes_on here holds
      · exact ⟨m, later, free⟩
      · cases asks
        obtain ⟨m', later', free⟩ := inductionHypothesis a here' holds'
        exact ⟨m', Nat.le_trans later later', free⟩

/-! ## Whoever waits -/

/-- Whoever waits in line for a lock gets it at last. -/
theorem moves_of_waiting (here : (during e turns n).tasks t = some task)
    (waits : task.waiting = true) :
    ∃ m, n ≤ m ∧ (during e turns m).tasks t = some task ∧ MovesAt e turns t m := by
  obtain ⟨release, next, asks, -⟩ := ((steady_during e turns n).inOrder t).waiting task here waits
  -- Every time that one of those ahead gives up its request, there are fewer of them.
  induction count : ((during e turns n).locks.ahead t release).length using Nat.strong_induction_on
    generalizing n with
  | _ rank inductionHypothesis =>
  have steady := steady_during e turns n
  obtain ⟨release', next', asks', r, member, named, rfl⟩ :=
    (steady.inOrder t).waiting task here waits
  cases asks.symm.trans asks'
  cases before : (during e turns n).locks.ahead t r.release with
  | nil =>
      have holds := steady.locks.holdsFor_of_ahead_eq_nil member named before
      obtain ⟨m, later, ⟨-, here'⟩, moves⟩ := fair.moves_of_able (P := fun _ => True)
        (fun _ _ _ => trivial) trivial ⟨here, fun _ => ⟨_, holds⟩⟩
        (steady.able_of_holdsFor holds).2
      exact ⟨m, later, here', moves⟩
  | cons first others =>
      have holds := steady.locks.holdsFor_of_ahead_eq_cons member named before
      obtain ⟨⟨op, rest, waiting⟩, there⟩ := steady.exists_task holds.asks
      obtain ⟨m, later, free⟩ := fair.gives_up there holds
      by_contra never
      have stays : ∀ m, n ≤ m →
          ((during e turns m).tasks t = some task ∧ (during e turns m).locks.Asks t) ∧
            ((during e turns m).locks.ahead t r.release).Sublist (first :: others) :=
        holds_until_moves (P := fun s => (s.tasks t = some task ∧ s.locks.Asks t) ∧
          (s.locks.ahead t r.release).Sublist (first :: others))
        (fun move apart ⟨⟨here, asks⟩, fewer⟩ =>
          ⟨⟨(move_tasks move apart).trans here, (move_spares move apart).asks.2 asks⟩,
            (ahead_sublist move apart asks).trans fewer⟩)
        ⟨⟨here, r, member, named⟩, before ▸ List.Sublist.refl _⟩
        fun m later holds moves => never ⟨m, later, holds.1.1, moves⟩
      obtain ⟨⟨here', -⟩, fewer⟩ := stays m later
      have less : ((during e turns m).locks.ahead t r.release).length < rank := by
        rw [before] at count
        refine Nat.lt_of_le_of_ne (count ▸ fewer.length_le) fun whole => free ?_
        have among : first ∈ (during e turns m).locks.ahead t r.release := by
          rw [fewer.eq_of_length (whole.trans count.symm)]
          exact List.mem_cons_self
        exact ReleaseLocks.asks_of_mem_ahead among
      obtain ⟨m', later', found⟩ := inductionHypothesis _ less here' rfl
      exact never ⟨m', Nat.le_trans later later', found⟩

/-! ## Everybody else -/

/-- Whoever has no delivery in flight makes a move at last. -/
theorem moves (here : (during e turns n).tasks t = some task)
    (calm : ¬ (during e turns n).Delivers t) :
    ∃ m, n ≤ m ∧ (during e turns m).tasks t = some task ∧ MovesAt e turns t m := by
  cases waiting : task.waiting with
  | true => exact fair.moves_of_waiting here waiting
  | false =>
      obtain ⟨m, later, ⟨-, here'⟩, moves⟩ := fair.moves_of_able (P := fun _ => True)
        (fun _ _ _ => trivial) trivial ⟨here, fun waits => nomatch waiting.symm.trans waits⟩ calm
      exact ⟨m, later, here', moves⟩

/-- Every operation ends at last, comes to a delivery, or is answered and goes on. -/
theorem ends_or_goes_on (here : (during e turns n).tasks t = some task) :
    ∃ m, n ≤ m ∧ ((during e turns m).tasks t = none ∨
      ((during e turns m).tasks t = some task ∧ (during e turns m).Delivers t) ∨
      ∃ r next a, task.rest = .ask r next ∧
        (during e turns m).tasks t = some ⟨task.operation, next a, false⟩) := by
  by_cases delivers : (during e turns n).Delivers t
  · exact ⟨n, Nat.le_refl n, Or.inr (Or.inl ⟨here, delivers⟩)⟩
  obtain ⟨m, later, here', moves⟩ := fair.moves here delivers
  rcases tasks_of_moves here' moves with gone | ⟨-, queued⟩ | goesOn
  · exact ⟨m + 1, Nat.le_succ_of_le later, Or.inl gone⟩
  · -- Whoever stands in line makes another move, and that is no second place in line.
    obtain ⟨m', later', here'', moves'⟩ := fair.moves_of_waiting queued rfl
    have ordered : n ≤ m' + 1 := by omega
    rcases tasks_of_moves here'' moves' with gone | ⟨new, -⟩ | goesOn
    · exact ⟨m' + 1, ordered, Or.inl gone⟩
    · cases new
    · exact ⟨m' + 1, ordered, Or.inr (Or.inr goesOn)⟩
  · exact ⟨m + 1, Nat.le_succ_of_le later, Or.inr (Or.inr goesOn)⟩

/-- Every operation ends at last, or comes to a delivery. -/
theorem ends_or_delivers {op : Operation} {rest : Program Outcome} {waiting : Bool}
    (here : (during e turns n).tasks t = some ⟨op, rest, waiting⟩) :
    ∃ m, n ≤ m ∧ ((during e turns m).tasks t = none ∨
      ∃ task, (during e turns m).tasks t = some task ∧ task.operation = op ∧
        (during e turns m).Delivers t) := by
  induction rest generalizing n waiting with
  | done _ | halt _ =>
      obtain ⟨m, later, gone | ⟨here', delivers⟩ | ⟨_, _, _, asks, -⟩⟩ := fair.ends_or_goes_on here
      · exact ⟨m, later, Or.inl gone⟩
      · exact ⟨m, later, Or.inr ⟨_, here', rfl, delivers⟩⟩
      · cases asks
  | ask r next inductionHypothesis =>
      obtain ⟨m, later, gone | ⟨here', delivers⟩ | ⟨_, _, a, asks, here'⟩⟩ :=
        fair.ends_or_goes_on here
      · exact ⟨m, later, Or.inl gone⟩
      · exact ⟨m, later, Or.inr ⟨_, here', rfl, delivers⟩⟩
      · cases asks
        obtain ⟨m', later', ends⟩ := inductionHypothesis a here'
        exact ⟨m', Nat.le_trans later later', ends⟩

end Fair

/-- A batch delivers nothing. -/
theorem not_delivers_of_batch (e : Engine) (schedule : List Turn) {events : List Event}
    {now : Instant} (here : (after e schedule).tasks t = some task)
    (filing : task.operation = .batch events now) : ¬ (after e schedule).Delivers t := by
  rintro ⟨kind, view, asking⟩
  obtain ⟨task', next, here', asks⟩ := asks?_eq_some asking
  cases here.symm.trans here'
  have may := (onCourse_after e schedule t).may here asks
  rw [filing] at may
  have stages := Engine.filing_of_batchMay may
  cases stage : stageOf t (after e schedule).history with
  | apart => exact (stage ▸ may).elim
  | entered listed => exact (stage ▸ may).elim
  | leaving => exact (stage ▸ may).elim
  | _ =>
      rw [stage] at stages
      exact stages.elim

/-- After every schedule, whoever waits for a lock or has a delivery in flight holds no lock, and
nobody holds two. As long as an operation is under way, one can take a step, whatever it is
answered, and one that has no delivery in flight unless nobody else is under way. On every fair
endless schedule, deliveries that are never answered included, every batch comes to its end. -/
theorem nobody_waits_or_delivers_under_a_lock (e : Engine) :
    (∀ schedule t release, (after e schedule).WaitsFor t release →
      ∀ other, ¬ (after e schedule).locks.HoldsFor t other) ∧
    (∀ schedule t, (after e schedule).Delivers t →
      ∀ release, ¬ (after e schedule).locks.HoldsFor t release) ∧
    (∀ schedule t release other, (after e schedule).locks.HoldsFor t release →
      (after e schedule).locks.HoldsFor t other → release = other) ∧
    (∀ schedule t, (after e schedule).tasks t ≠ none →
      ∃ u, (after e schedule).CanStep e u ∧
        ((after e schedule).Delivers u → (after e schedule).Delivers t)) ∧
    ∀ turns, Fair e turns → ∀ n t events now rest waiting,
      (during e turns n).tasks t = some ⟨.batch events now, rest, waiting⟩ →
      ∃ m, n ≤ m ∧ (during e turns m).tasks t = none := by
  refine ⟨?_, ?_, ?_, ?_, ?_⟩
  · intro schedule t release waits other
    exact (steady_custody e schedule).not_holdsFor_of_waitsFor waits other
  · intro schedule t delivers release holds
    exact (steady_custody e schedule).not_asks_of_delivers delivers holds.asks
  · intro schedule t release other holds holds'
    exact (steady_custody e schedule).release_unique holds holds'
  · intro schedule t busy
    have steady := steady_custody e schedule
    obtain ⟨task, here⟩ := Option.ne_none_iff_exists'.1 busy
    by_cases delivers : (after e schedule).Delivers t
    · obtain ⟨task', able⟩ := steady.able_of_delivers delivers
      exact ⟨t, able.canStep, fun _ => delivers⟩
    · obtain ⟨u, ⟨task', able⟩, calm⟩ := steady.exists_able here delivers
      exact ⟨u, able.canStep, fun delivers' => absurd delivers' calm⟩
  · intro turns fair n t events now rest waiting here
    obtain ⟨m, later, gone | ⟨task, there, filing, delivers⟩⟩ := fair.ends_or_delivers here
    · exact ⟨m, later, gone⟩
    · exact absurd delivers (not_delivers_of_batch e _ there filing)

/-! ## A silent notifier -/

/-- The turns of a list, and then others. -/
def followedBy (schedule : List Turn) (later : Nat → Turn) (n : Nat) : Turn :=
  schedule[n]?.getD (later n)

theorem during_followedBy (e : Engine) (schedule : List Turn) (later : Nat → Turn) :
    during e (followedBy schedule later) schedule.length = after e schedule := by
  have same : (List.range schedule.length).map (followedBy schedule later) = schedule := by
    refine List.ext_getElem (by simp) fun n _ inside => ?_
    simp [followedBy, inside]
  unfold during
  rw [same]

theorem tasks_step_proceed (e : Engine) (s : System) (c : Collaborators) (apart : t ≠ u) :
    (step e s (.proceed u c)).tasks t = s.tasks t := by
  have goesOn : ∀ op r next, (s.goOn u op r next c).tasks t = s.tasks t := by
    intro op r next
    unfold goOn
    split <;> exact Function.update_of_ne apart _ _
  simp only [step, proceed]
  repeat' split
  all_goals first
    | rfl
    | exact goesOn _ _ _
    | exact Function.update_of_ne apart _ _

/-- Whether an operation is a batch. -/
def Operation.isBatch : Operation → Bool
  | .batch _ _ => true
  | .sweep _ => false

/-- Whether a request is to deliver an alert. -/
def isDelivery : Request → Bool
  | .deliver _ _ => true
  | _ => false

theorem deliver_of_isDelivery {r : Request} (delivery : isDelivery r = true) :
    ∃ kind view, r = .deliver kind view := by
  unfold isDelivery at delivery
  split at delivery
  · exact ⟨_, _, rfl⟩
  · cases delivery

/-- An alert is under delivery, one batch has the lock of the release, and another waits for it. -/
def deliveringForever : List Turn :=
  Sample.running 0 (.batch [Sample.event "web-0" "OOMKilled"] .epoch) "a" 14
    ++ Sample.running 1 (.sweep .epoch) "" 5
    ++ Sample.running 2 (.batch [Sample.event "web-1" "OOMKilled"] .epoch) "b" 8
    ++ Sample.running 3 (.batch [Sample.event "web-2" "OOMKilled"] .epoch) "c" 7

/-- The batches go on by turns, and the delivery is never answered. -/
def batchesByTurns : Nat → Turn :=
  followedBy deliveringForever fun n => .proceed (2 + n % 2) (Sample.willing "d")

theorem batchesByTurns_of_le {n : Nat} (late : deliveringForever.length ≤ n) :
    batchesByTurns n = .proceed (2 + n % 2) (Sample.willing "d") := by
  unfold batchesByTurns followedBy
  rw [List.getElem?_eq_none late, Option.getD_none]

theorem delivers_deliveringForever : (after Sample.engine deliveringForever).Delivers 1 := by
  have delivering : ((after Sample.engine deliveringForever).asks? 1).any
      isDelivery = true := by decide +kernel
  obtain ⟨r, asking, delivery⟩ := (Option.any_eq_true _ _).1 delivering
  obtain ⟨kind, view, rfl⟩ := deliver_of_isDelivery delivery
  exact ⟨kind, view, asking⟩

theorem fair_batchesByTurns : Fair Sample.engine batchesByTurns := by
  -- Only the batches go on.
  have rests : ∀ t, t ≠ 2 → t ≠ 3 → ∀ m, deliveringForever.length ≤ m →
      (during Sample.engine batchesByTurns m).tasks t =
        (after Sample.engine deliveringForever).tasks t := by
    intro t second third m late
    induction m, late using Nat.le_induction with
    | base =>
        unfold batchesByTurns
        rw [during_followedBy]
    | succ m late inductionHypothesis =>
        rw [during_succ, batchesByTurns_of_le late, tasks_step_proceed _ _ _ (by omega)]
        exact inductionHypothesis
  intro t n
  by_cases second : t = 2
  · refine ⟨2 * (deliveringForever.length + n), by omega, Or.inr (Or.inr ⟨Sample.willing "d", ?_⟩)⟩
    rw [batchesByTurns_of_le (by omega), Nat.mul_mod_right, second]
  by_cases third : t = 3
  · refine ⟨2 * (deliveringForever.length + n) + 1, by omega,
      Or.inr (Or.inr ⟨Sample.willing "d", ?_⟩)⟩
    rw [batchesByTurns_of_le (by omega), Nat.mul_add_mod, third]
  have rest := rests t second third (deliveringForever.length + n) (by omega)
  refine ⟨deliveringForever.length + n, by omega, ?_⟩
  by_cases first : t = 1
  · obtain ⟨kind, view, asking⟩ := delivers_deliveringForever
    refine Or.inr (Or.inl ⟨kind, view, ?_⟩)
    unfold asks? at asking ⊢
    rw [rest, first]
    exact asking
  · refine Or.inl (rest.trans ?_)
    by_cases zeroth : t = 0
    · rw [zeroth, ← Option.isNone_iff_eq_none]
      decide +kernel
    · have begun : (after Sample.engine deliveringForever).begun = 4 := by decide +kernel
      exact (steady_custody Sample.engine deliveringForever).unbegun t (by omega)

theorem nobody_waits_or_delivers_under_a_lock_of_silent_notifier :
    (after Sample.engine deliveringForever).WaitsFor 3 ⟨"web", "default"⟩ ∧
    (∀ other, ¬ (after Sample.engine deliveringForever).locks.HoldsFor 3 other) ∧
    (∀ release, ¬ (after Sample.engine deliveringForever).locks.HoldsFor 1 release) ∧
    ∃ m, deliveringForever.length ≤ m ∧
      (during Sample.engine batchesByTurns m).tasks 3 = none := by
  obtain ⟨waiting, delivering, -, -, ending⟩ :=
    nobody_waits_or_delivers_under_a_lock Sample.engine
  have waits : (after Sample.engine deliveringForever).WaitsFor 3 ⟨"web", "default"⟩ := by
    have asking : ((after Sample.engine deliveringForever).asks? 3).bind wanted? =
        some ⟨"web", "default"⟩ := by decide +kernel
    obtain ⟨r, asks, wanted⟩ := Option.bind_eq_some_iff.1 asking
    rw [wanted?_eq_some wanted] at asks
    exact ⟨asks, by unfold ReleaseLocks.HoldsFor; decide +kernel⟩
  have here : ∃ events now rest waiting, (after Sample.engine deliveringForever).tasks 3 =
      some ⟨.batch events now, rest, waiting⟩ := by
    have filing : ((after Sample.engine deliveringForever).tasks 3).any
        (·.operation.isBatch) = true := by decide +kernel
    obtain ⟨⟨op, rest, waiting⟩, here, batch⟩ := (Option.any_eq_true _ _).1 filing
    cases op with
    | batch events now => exact ⟨events, now, rest, waiting, here⟩
    | sweep now => cases batch
  obtain ⟨events, now, rest, queued, here⟩ := here
  refine ⟨waits, waiting _ 3 _ waits, delivering _ 1 delivers_deliveringForever,
    ending batchesByTurns fair_batchesByTurns _ 3 events now rest queued ?_⟩
  unfold batchesByTurns
  rw [during_followedBy]
  exact here

end IncidentWatch.Interleaving

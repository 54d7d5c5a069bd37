import IncidentWatch.Proofs.Course.Records

/-!
# Runs of sweeps

Some things hold only of runs in which sweeps are not cut off (`Uncut`), or in which they
also follow one another and the store refuses nothing (`Orderly`). Such a rule says which
turn is allowed in which state, and is checked turn by turn (`Keeps`).

Where no sweep is cut off, whoever stops has met a fault, and has nothing half done
(`owesNothing_of_stopped`).
-/

set_option autoImplicit false

namespace IncidentWatch.Interleaving

open IncidentWatch.Interleaving.System

namespace System

/-- The instant of the sweep that is under way with a number. -/
def sweeping? (s : System) (t : Nat) : Option Instant :=
  match s.tasks t with
  | some ⟨.sweep now, _, _⟩ => some now
  | _ => none

/-- No sweep is under way. -/
def Resting (s : System) : Prop :=
  ∀ t < s.begun, s.sweeping? t = none

instance (s : System) : Decidable s.Resting :=
  inferInstanceAs (Decidable (∀ t < s.begun, s.sweeping? t = none))

/-! ## Rules for turns -/

/-- No sweep is cut off. -/
def Uncut (s : System) : Turn → Prop
  | .stop t => s.sweeping? t = none
  | _ => True

/-- Sweeps follow one another and are not cut off, and the store refuses nothing. -/
def Orderly (s : System) : Turn → Prop
  | .begin (.sweep _) => s.Resting
  | .begin (.batch _ _) => True
  | .proceed _ c => c.refusal.isNone = true
  | .stop t => s.sweeping? t = none

instance (s : System) (turn : Turn) : Decidable (s.Uncut turn) :=
  match turn with
  | .begin _ => inferInstanceAs (Decidable True)
  | .proceed _ _ => inferInstanceAs (Decidable True)
  | .stop t => inferInstanceAs (Decidable (s.sweeping? t = none))

instance (s : System) (turn : Turn) : Decidable (s.Orderly turn) :=
  match turn with
  | .begin (.sweep _) => inferInstanceAs (Decidable s.Resting)
  | .begin (.batch _ _) => inferInstanceAs (Decidable True)
  | .proceed _ c => inferInstanceAs (Decidable (c.refusal.isNone = true))
  | .stop t => inferInstanceAs (Decidable (s.sweeping? t = none))

/-- A rule for turns is kept along a schedule. -/
def Keeps (e : Engine) (rule : System → Turn → Prop) : System → List Turn → Prop
  | _, [] => True
  | s, turn :: later => rule s turn ∧ Keeps e rule (step e s turn) later

instance decidableKeeps (e : Engine) (rule : System → Turn → Prop)
    [∀ s turn, Decidable (rule s turn)] (s : System) (schedule : List Turn) :
    Decidable (Keeps e rule s schedule) :=
  match schedule with
  | [] => inferInstanceAs (Decidable True)
  | turn :: later =>
      let _ := decidableKeeps e rule (step e s turn) later
      inferInstanceAs (Decidable (rule s turn ∧ Keeps e rule (step e s turn) later))

variable {e : Engine} {rule : System → Turn → Prop} {s s' : System} {t u : Nat}

theorem keeps_append {earlier later : List Turn} :
    Keeps e rule s (earlier ++ later) ↔
      Keeps e rule s earlier ∧ Keeps e rule (earlier.foldl (step e) s) later := by
  induction earlier generalizing s with
  | nil => simp [Keeps]
  | cons turn rest inductionHypothesis =>
      simp only [List.cons_append, Keeps, List.foldl_cons, inductionHypothesis, and_assoc]

/-- What holds at the start and is kept by every turn that the rule allows holds after every
schedule that keeps the rule. -/
theorem after_keeping {P : System → Prop} (start : P {})
    (kept : ∀ earlier turn, P (after e earlier) → rule (after e earlier) turn →
      P (step e (after e earlier) turn))
    (schedule : List Turn) (keeps : Keeps e rule {} schedule) : P (after e schedule) := by
  induction schedule using List.reverseRecOn with
  | nil => exact start
  | append_singleton earlier turn inductionHypothesis =>
      obtain ⟨before, last⟩ := keeps_append.1 keeps
      rw [after_append]
      exact kept earlier turn (inductionHypothesis before) last.1

/-! ## Sweeps under way -/

theorem sweeping?_of_task {task : Task} {now : Instant} (here : s.tasks t = some task)
    (sweeps : task.operation = .sweep now) : s.sweeping? t = some now := by
  obtain ⟨op, rest, waiting⟩ := task
  cases sweeps
  simp only [sweeping?, here]

theorem sweeping?_of_other (move : Move e s t s') (apart : u ≠ t) :
    s'.sweeping? u = s.sweeping? u := by
  unfold sweeping?
  rw [move_tasks move apart]

theorem sweeping?_of_batch {task : Task} {events : List Event} {now : Instant}
    (here : s.tasks t = some task) (files : task.operation = .batch events now) :
    s.sweeping? t = none := by
  obtain ⟨op, rest, waiting⟩ := task
  cases files
  simp only [sweeping?, here]

theorem sweeping?_of_idle (idle : s.tasks t = none) : s.sweeping? t = none := by
  simp only [sweeping?, idle]

/-- Only a beginning makes operations more. -/
theorem begun_step {turn : Turn} (goesOn : ∀ op, turn ≠ .begin op) :
    (step e s turn).begun = s.begun := by
  cases turn with
  | begin op => exact absurd rfl (goesOn op)
  | stop t =>
      simp only [step, stop]
      split <;> rfl
  | proceed t c =>
      simp only [step, proceed]
      split
      · rfl
      split
      · rfl
      · rfl
      have goOn : ∀ op r next, (s.goOn t op r next c).begun = s.begun := by
        intro op r next
        unfold System.goOn
        split <;> rfl
      split
      · exact goOn _ _ _
      split
      · split
        · exact goOn _ _ _
        · rfl
      · rfl

/-- A move that begins nothing makes no sweep. -/
theorem sweeping?_of_move (move : Move e s t s') (goesOn : s'.begun = s.begun)
    (idle : s.sweeping? u = none) : s'.sweeping? u = none := by
  by_cases apart : u ≠ t
  · rw [sweeping?_of_other move apart]
    exact idle
  obtain rfl := not_not.1 apart
  have files : ∀ {task task'}, s.tasks u = some task → s'.tasks u = some task' →
      task'.operation = task.operation → s'.sweeping? u = none := by
    intro task task' here there same
    cases op : task.operation with
    | batch events now => exact sweeping?_of_batch there (same.trans op)
    | sweep now => cases (sweeping?_of_task here op).symm.trans idle
  cases move with
  | begun op => exact absurd goesOn (Nat.succ_ne_self _)
  | queued here asks new => exact files here (Function.update_self _ _ _) rfl
  | answered here asks granted served => exact files here (Function.update_self _ _ _) rfl
  | ended here finished => exact sweeping?_of_idle (Function.update_self _ _ _)
  | stopped here => exact sweeping?_of_idle (Function.update_self _ _ _)

/-! ## Turns and what they add to the history -/

/-- What becomes of an operation that is let go on, with the collaborators that it meets. -/
inductive Proceeds (s : System) (t : Nat) (c : Collaborators) : System → Prop
  | idle : Proceeds s t c s
  | queued {task : Task} {release : ReleaseKey} : Proceeds s t c (s.queue t task release)
  | answered {task : Task} {r : Request} {next : r.Answer → Program Outcome} {a : r.Answer}
      {store : Store} (served : serve c s.store r = some (a, store)) :
      Proceeds s t c (s.resume t task.operation r a store (next a))
  | ended {task : Task} {outcome : Outcome} :
      Proceeds s t c (s.leave t (.ended task.operation outcome))
  | halted {task : Task} {fault : Fault} (here : s.tasks t = some task)
      (halts : task.rest = .halt fault) : Proceeds s t c (s.leave t .stopped)
  | faulted {task : Task} {r : Request} {next : r.Answer → Program Outcome}
      (here : s.tasks t = some task) (asks : task.rest = .ask r next)
      (fault : serve c s.store r = none) : Proceeds s t c (s.leave t .stopped)

theorem proceeds_goOn {task : Task} {r : Request} {next : r.Answer → Program Outcome}
    (c : Collaborators) (here : s.tasks t = some task) (asks : task.rest = .ask r next) :
    Proceeds s t c (s.goOn t task.operation r next c) := by
  unfold goOn
  split
  · rename_i fault
    exact .faulted here asks fault
  · rename_i a store served
    exact .answered served

theorem proceeds (s : System) (t : Nat) (c : Collaborators) : Proceeds s t c (s.proceed t c) := by
  unfold proceed
  split
  · exact .idle
  · rename_i task here
    split
    · exact .ended
    · rename_i fault halts
      exact .halted here halts
    · rename_i r next asks
      split
      · exact proceeds_goOn c here asks
      · split
        · split
          · exact proceeds_goOn c here asks
          · exact .idle
        · exact .queued

end System

variable {e : Engine} {s s' : System} {t : Nat}

/-- Whatever happened, happened to an operation that was begun. -/
theorem task_lt_begun (e : Engine) (schedule : List Turn) :
    ∀ entry ∈ (after e schedule).history, entry.task < (after e schedule).begun := by
  refine after_moves (P := fun s => ∀ entry ∈ s.history, entry.task < s.begun) ?_ ?_ schedule
  · exact fun _ member => nomatch member
  · intro earlier t s' before move
    have steady := (standing_after e earlier).steady
    cases move with
    | begun op =>
        have later := fun entry member => Nat.lt_succ_of_lt (before entry member)
        exact List.forall_mem_cons.2 ⟨Nat.lt_succ_self _, later⟩
    | queued here asks new => exact before
    | answered here asks granted served =>
        exact List.forall_mem_cons.2 ⟨steady.lt_begun here, before⟩
    | ended here finished => exact List.forall_mem_cons.2 ⟨steady.lt_begun here, before⟩
    | stopped here => exact List.forall_mem_cons.2 ⟨steady.lt_begun here, before⟩

/-- Whoever is not in a stage of a batch sweeps. -/
theorem sweeping_of_stage (standing : Standing e s) (stage : ¬ (stageOf t s.history).Filing) :
    ∃ now, s.sweeping? t = some now := by
  have onCourse := standing.onCourse t
  cases here : s.tasks t with
  | none =>
      rw [onCourse.idle here] at stage
      exact absurd trivial stage
  | some task =>
      cases op : task.operation with
      | batch events now =>
          have begun := onCourse.begun task here
          rw [op] at begun
          exact absurd ((standing.grounded t).filing events now begun) stage
      | sweep now => exact ⟨now, sweeping?_of_task here op⟩

theorem System.Resting.sweeping? (resting : s.Resting) (standing : Standing e s) (t : Nat) :
    s.sweeping? t = none := by
  by_cases begun : t < s.begun
  · exact resting t begun
  · exact sweeping?_of_idle (standing.steady.unbegun t (Nat.le_of_not_lt begun))

theorem filing_of_resting (standing : Standing e s) (resting : s.Resting) (t : Nat) :
    (stageOf t s.history).Filing := by
  by_contra stage
  obtain ⟨now, sweeping⟩ := sweeping_of_stage standing stage
  rw [resting.sweeping? standing t] at sweeping
  cases sweeping

/-! ## Ends -/

theorem serve_eq_none {c : Collaborators} {store : Store} {r : Request}
    (fault : serve c store r = none) : ∃ f p, r = .list f p := by
  cases r with
  | list f p => exact ⟨f, p, rfl⟩
  | create i =>
      simp only [serve] at fault
      split at fault
      · cases fault
      · split at fault <;> cases fault
  | update i =>
      simp only [serve] at fault
      split at fault
      · cases fault
      · split at fault <;> cases fault
  | read id =>
      simp only [serve] at fault
      split at fault <;> cases fault
  | _ => cases fault

theorem owesNothing_of_list {op : Operation} {stage : Stage} {f : IncidentFilter} {p : Pagination}
    (may : e.May op stage (.list f p)) : stage.OwesNothing := by
  cases op with
  | batch events now => exact (Engine.filing_of_batchMay may).owesNothing
  | sweep now =>
      cases stage with
      | judged i verdict =>
          exact (Engine.not_asked_of_judged may (fun _ _ => nofun) (fun _ => nofun) nofun).elim
      | probed i health => exact may.elim
      | counted i health => exact may.elim
      | _ => trivial

/-- Where no sweep is cut off, whoever stops has nothing half done. -/
theorem owesNothing_of_stopped (standing : Standing e s) {turn : Turn} (uncut : s.Uncut turn)
    (stops : (step e s turn).history = ⟨t, .stopped⟩ :: s.history) :
    (stageOf t s.history).OwesNothing := by
  have unchanged : s.history ≠ ⟨t, .stopped⟩ :: s.history := List.ne_cons_self
  cases turn with
  | begin op => simp [step, begin, Situation.note] at stops
  | stop u =>
      simp only [step, stop] at stops
      split at stops
      · exact absurd stops unchanged
      · obtain rfl : u = t := by simpa [leave, Situation.note] using stops
        by_contra owes
        obtain ⟨now, sweeping⟩ := sweeping_of_stage standing fun filing =>
          owes filing.owesNothing
        rw [show s.sweeping? u = none from uncut] at sweeping
        cases sweeping
  | proceed u c =>
      simp only [step] at stops
      generalize became : s.proceed u c = s' at stops
      have proceeds := proceeds s u c
      rw [became] at proceeds
      cases proceeds with
      | idle => exact absurd stops unchanged
      | queued => exact absurd stops unchanged
      | answered served => simp [resume, Situation.answered] at stops
      | ended => simp [leave, Situation.note] at stops
      | halted here halts =>
          obtain rfl : u = t := by simpa [leave, Situation.note] using stops
          have follows := (standing.onCourse u).follows _ here
          rw [halts] at follows
          exact follows
      | faulted here asks fault =>
          obtain rfl : u = t := by simpa [leave, Situation.note] using stops
          obtain ⟨f, p, rfl⟩ := serve_eq_none fault
          exact owesNothing_of_list ((standing.onCourse u).may here asks)

/-- Whoever ends does so where its rule lets it. -/
theorem ends_of_done (standing : Standing e s) {task : Task} {outcome : Outcome}
    (here : s.tasks t = some task) (finished : task.rest = .done outcome) :
    e.Ends task.operation (stageOf t s.history) := by
  have follows := (standing.onCourse t).follows task here
  rw [finished] at follows
  exact follows

end IncidentWatch.Interleaving

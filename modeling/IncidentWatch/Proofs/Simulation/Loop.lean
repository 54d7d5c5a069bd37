import IncidentWatch.Proofs.Settings.Rhythm
import IncidentWatch.Proofs.Simulation.Health
import IncidentWatch.Simulation.Loop

/-!
# The simulated loop

The loop of a simulation follows `Engine.loopOver` with the ends that its sweeps come to: the
sweeps leave the health alone, so all that is counted of the components is what the loop
reports (`runLoop_follows`). Only one thing more can stop the simulated loop, which is a fault of a
sweep; such a sweep comes to no end (`SweepBreaks`).
-/

set_option autoImplicit false

namespace IncidentWatch.Simulation

open Activity Engine

variable {α : Type}

/-- A simulated run and a program beside others come to the same value, after which the same
failures are counted, or meet the same fault. -/
inductive Agrees : Ending α × World → Except Fault α × HealthRegistry → Prop
  | value {a : α} {w : World} {r : HealthRegistry} (same : r.failures = w.health.failures) :
      Agrees (.value a, w) (.ok a, r)
  | fault {f : Fault} {w : World} {r : HealthRegistry} : Agrees (.fault f, w) (.error f, r)

/-- Some sweep of the engine, with the limit of a rhythm, meets a fault by itself. -/
def SweepBreaks (e : Engine) (rhythm : Rhythm) (f : Fault) : Prop :=
  ∃ w : World, ((activity e (e.sweep w.present).run).run
    (some (w.elapsed + rhythm.limit)) w).1 = .fault f

/-! ## Programs that only keep books -/

/-- Entries of the log, measures, and reports on components. -/
def KeepsBooks : Request → Prop
  | .log _ => True
  | .measure _ => True
  | .succeeded _ => True
  | .failed _ _ => True
  | _ => False

/-- A program that only keeps books. -/
def OnlyKeepsBooks : Program α → Prop
  | .done _ => True
  | .halt _ => True
  | .ask r next => KeepsBooks r ∧ ∀ a, OnlyKeepsBooks (next a)

/-- Where the same failures are counted, one more is counted by both or by neither. -/
theorem fail_of_same_failures {r r' : HealthRegistry} (same : r.failures = r'.failures)
    (c : Component) (text : String) (now now' : Instant) :
    (∃ fault, r.fail c.name text now = .error fault ∧ r'.fail c.name text now' = .error fault) ∨
      ∃ s s', r.fail c.name text now = .ok s ∧ r'.fail c.name text now' = .ok s' ∧
        s.failures = s'.failures := by
  rw [HealthRegistry.fail_eq, HealthRegistry.fail_eq, same]
  cases Word.uint32 .addOverflow (r'.failures c + 1) with
  | error fault => exact Or.inl ⟨fault, rfl, rfl⟩
  | ok streak =>
      refine Or.inr ⟨_, _, rfl, rfl, ?_⟩
      rw [HealthRegistry.failures_set, HealthRegistry.failures_set, same]

variable {moments : Nat → Moment} {w : World} {r : HealthRegistry}

/-- A program that only keeps books comes to the same in a simulation and beside nobody. -/
theorem agrees_quietActivity {p : Program α} (books : OnlyKeepsBooks p)
    (alone : ∀ n, (moments n).others = []) (same : r.failures = w.health.failures) (n : Nat) :
    Agrees ((quietActivity p).run none w) (p.beside moments n r) := by
  induction p generalizing w r n with
  | done a => exact .value same
  | halt fault => exact .fault
  | ask request next inductionHypothesis =>
      obtain ⟨book, books⟩ := books
      have attended : r.attend (moments n).others = r := by rw [alone]; rfl
      rw [Program.beside, attended]
      cases request with
      | log entry => exact inductionHypothesis () (books ()) (w := w.log entry) same (n + 1)
      | measure m =>
          exact inductionHypothesis () (books ()) (w := { w with metrics := w.metrics.record m })
            same (n + 1)
      | succeeded c =>
          refine inductionHypothesis () (books ())
            (w := { w with health := w.health.succeed c.name w.present }) ?_ (n + 1)
          show (r.set c.name _).failures = (w.health.set c.name _).failures
          rw [HealthRegistry.failures_set, HealthRegistry.failures_set, same]
          rfl
      | failed c text =>
          show Agrees ((((checked (w.health.fail c.name text w.present)).andThen fun health =>
            change fun w => { w with health }).andThen fun _ => quietActivity (next ())).run none w) _
          rcases fail_of_same_failures same c text (moments n).now w.present with
            ⟨fault, ours, simulated⟩ | ⟨counted, health, ours, simulated, same'⟩
          · rw [simulated, show r.hear (moments n).now (.failed c text) = _ from ours]
            exact .fault
          · rw [simulated, show r.hear (moments n).now (.failed c text) = _ from ours]
            exact inductionHypothesis () (books ()) (w := { w with health }) same' (n + 1)
      | _ => exact book.elim

theorem onlyKeepsBooks_startLoop (rhythm : Rhythm) : OnlyKeepsBooks (startLoop rhythm) := by
  refine ⟨trivial, fun _ => ?_⟩
  show OnlyKeepsBooks (if rhythm.interval = 0 then Program.halt .zeroPeriod else .done ())
  split <;> trivial

theorem onlyKeepsBooks_reportSweep (rhythm : Rhythm) (sweepEnd : SweepEnd) :
    OnlyKeepsBooks (reportSweep rhythm sweepEnd) := by
  cases sweepEnd with
  | finished report =>
      exact ⟨trivial, fun _ => ⟨trivial, fun _ => ⟨trivial, fun _ => trivial⟩⟩⟩
  | cutOff => exact ⟨trivial, fun _ => ⟨trivial, fun _ => ⟨trivial, fun _ => trivial⟩⟩⟩
  | failed error =>
      cases error with
      | persistence cause =>
          exact ⟨trivial, fun _ => ⟨trivial, fun _ => ⟨trivial, fun _ => ⟨trivial, fun _ =>
            trivial⟩⟩⟩⟩
      | _ => exact ⟨trivial, fun _ => ⟨trivial, fun _ => ⟨trivial, fun _ => trivial⟩⟩⟩

/-! ## Sweeps and the loop -/

/-- A simulated sweep comes to an end, which is reported in a world of the same health, or breaks
off by a fault. -/
theorem runSweep_cases (e : Engine) (rhythm : Rhythm) (w : World) :
    (∃ sweepEnd w', w'.health = w.health ∧
      runSweep e rhythm w = (quietActivity (reportSweep rhythm sweepEnd)).run none w') ∨
    ∃ f, (runSweep e rhythm w).1 = .fault f ∧ SweepBreaks e rhythm f := by
  have spared := (sparesHealth_sweep e w.present).run (some (w.elapsed + rhythm.limit)) w
  unfold runSweep
  cases ran : (activity e (e.sweep w.present).run).run (some (w.elapsed + rhythm.limit)) w with
  | mk ending w' =>
      rw [ran] at spared
      cases ending with
      | value result =>
          cases result with
          | ok counts => exact Or.inl ⟨.finished counts, w', spared, rfl⟩
          | error error => exact Or.inl ⟨.failed error, w', spared, rfl⟩
      | cutOff => exact Or.inl ⟨.cutOff, w', spared, rfl⟩
      | fault f => exact Or.inr ⟨f, rfl, w, by rw [ran]⟩

/-- The sweeps that fall due come to ends, all of which are reported, unless one of them breaks off
by a fault. -/
theorem runSweeps_cases (e : Engine) (rhythm : Rhythm) (stop : Nat) (due : List Nat)
    (alone : ∀ n, (moments n).others = []) (same : r.failures = w.health.failures) (n : Nat) :
    (∃ ends : List SweepEnd, Agrees (runSweeps e rhythm stop due w)
      ((ends.forM (reportSweep rhythm)).beside moments n r)) ∨
    ∃ f, (runSweeps e rhythm stop due w).1 = .fault f ∧ SweepBreaks e rhythm f := by
  induction due generalizing w r n with
  | nil => exact Or.inl ⟨[], .value same⟩
  | cons moment rest inductionHypothesis =>
      unfold runSweeps
      split
      · exact Or.inl ⟨[], .value same⟩
      · rcases runSweep_cases e rhythm (w.waitUntil moment) with
          ⟨sweepEnd, w', spared, swept⟩ | ⟨f, broken, breaks⟩
        · have reported := agrees_quietActivity (onlyKeepsBooks_reportSweep rhythm sweepEnd) alone
            (same.trans (congrArg HealthRegistry.failures spared.symm)) n
          obtain ⟨k, goesOn⟩ := (reportSweep rhythm sweepEnd).beside_bind moments n r
          rw [swept]
          generalize (quietActivity (reportSweep rhythm sweepEnd)).run none w' = simulated at *
          generalize (reportSweep rhythm sweepEnd).beside moments n r = ours at *
          cases reported with
          | value same' =>
              refine (inductionHypothesis same' k).imp_left fun ⟨ends, agrees⟩ => ?_
              refine ⟨sweepEnd :: ends, ?_⟩
              rw [List.forM_eq_forM, List.forM_cons, goesOn]
              exact agrees
          | fault =>
              refine Or.inl ⟨[sweepEnd], ?_⟩
              rw [List.forM_eq_forM, List.forM_cons, goesOn]
              exact .fault
        · generalize runSweep e rhythm (w.waitUntil moment) = simulated at *
          obtain ⟨ending, w'⟩ := simulated
          cases broken
          exact Or.inr ⟨f, rfl, breaks⟩

/-- The simulated loop comes to what the loop comes to that reports the same ends of sweeps while
nobody else reports, unless a sweep breaks off by a fault. -/
theorem runLoop_follows (e : Engine) (rhythm : Rhythm) (time : Nat) (w : World)
    (alone : ∀ n, (moments n).others = []) :
    (∃ ends, Agrees (runLoop e rhythm time w)
      ((loopOver rhythm ends).beside moments 0 w.health)) ∨
    ∃ f, (runLoop e rhythm time w).1 = .fault f ∧ SweepBreaks e rhythm f := by
  have started := agrees_quietActivity (onlyKeepsBooks_startLoop rhythm) alone
    (rfl : w.health.failures = w.health.failures) 0
  obtain ⟨k, goesOn⟩ := (startLoop rhythm).beside_bind moments 0 w.health
  unfold runLoop loopOver
  simp only [goesOn]
  generalize (quietActivity (startLoop rhythm)).run none w = simulated at *
  generalize (startLoop rhythm).beside moments 0 w.health = ours at *
  cases started with
  | fault => exact Or.inl ⟨[], .fault⟩
  | @value _ w' r same =>
      dsimp only
      rcases runSweeps_cases e rhythm (w.elapsed + time) ((List.range
        (time / rhythm.interval + 1)).map fun n => w.elapsed + dueAt rhythm n) alone same k with
          ⟨ends, agrees⟩ | ⟨f, broken, breaks⟩
      · refine Or.inl ⟨ends, ?_⟩
        obtain ⟨k', goesOn'⟩ := (ends.forM (reportSweep rhythm)).beside_bind moments k r
        rw [goesOn']
        generalize runSweeps e rhythm _ _ w' = simulated at *
        generalize (ends.forM (reportSweep rhythm)).beside moments k r = ours at *
        cases agrees with
        | fault => exact .fault
        | @value _ w' r same' =>
            have attended : r.attend (moments k').others = r := by rw [alone]; rfl
            show Agrees _ ((Program.ask (.log loopEnding) .done).beside moments k' r)
            rw [Program.beside, attended]
            exact .value same'
      · refine Or.inr ⟨f, ?_, breaks⟩
        generalize runSweeps e rhythm _ _ w' = simulated at *
        obtain ⟨ending, w'⟩ := simulated
        cases broken
        rfl

end IncidentWatch.Simulation

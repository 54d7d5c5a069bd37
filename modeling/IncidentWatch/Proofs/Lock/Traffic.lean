import IncidentWatch.Proofs.Lock.Exclusion
import Mathlib.Data.List.Find
import Mathlib.Data.List.Induction

/-!
# Traffic at the locks

Between being led to a lock and taking a place in its line a request can be overtaken
by others, and the entries can be pruned. `LockTraffic` keeps the two moments apart: the
requests that were led to a lock and not given up, each of which refers to it, and those
of them that stand in line. A request that lines up at once is the one of
`ReleaseLocks.request` (`inLine_lead_lineUp`).

Whoever was led to a lock keeps its entry from being pruned, so whatever the steps, all
requests for a release are at one lock, the one that its entry leads to (`Orderly`). A
request then holds its lock exactly when it is the first in line of those for its release
(`Sound.isFirst_iff_find?`): it never waits for another release, and no pruning lets two
of one release in.
-/

set_option autoImplicit false

namespace IncidentWatch

namespace ReleaseLocks

variable {ι : Type} {l : ReleaseLocks ι} {key : ReleaseKey} {lock : Nat}

/-- The references to a lock: one from each entry that leads to it, and one from each request that
was led to it. -/
def references (l : ReleaseLocks ι) (lock : Nat) : Nat :=
  l.entries.countP (·.2 = lock) + l.requests.countP (·.lock = lock)

namespace Sound

variable (sound : l.Sound)
include sound

theorem release_of_lock {r r' : LockRequest ι} (member : r ∈ l.requests)
    (member' : r' ∈ l.requests) (same : r.lock = r'.lock) : r.release = r'.release := by
  have entries := List.inj_on_of_nodup_map sound.locks_nodup (sound.led r member)
    (sound.led r' member') same
  exact congrArg Prod.fst entries

theorem lockOf?_eq_some_iff : l.lockOf? key = some lock ↔ (key, lock) ∈ l.entries := by
  constructor
  · intro found
    obtain ⟨before, after, split, -⟩ := List.lookup_eq_some_iff.1 found
    rw [split]
    exact List.mem_append_right _ List.mem_cons_self
  · intro member
    have present : (l.lockOf? key).isSome = true :=
      List.lookup_isSome_iff.2 ⟨(key, lock), member, beq_self_eq_true key⟩
    obtain ⟨lock', found⟩ := Option.isSome_iff_exists.1 present
    obtain ⟨before, after, split, -⟩ := List.lookup_eq_some_iff.1 found
    have member' : (key, lock') ∈ l.entries := by
      rw [split]
      exact List.mem_append_right _ List.mem_cons_self
    cases List.inj_on_of_nodup_map sound.releases_nodup member' member rfl
    exact found

/-! ## Pruning -/

/-- One entry leads to each lock that an entry leads to. -/
theorem countP_entries (member : (key, lock) ∈ l.entries) :
    l.entries.countP (·.2 = lock) = 1 := by
  have once := List.count_eq_one_of_mem sound.locks_nodup (List.mem_map_of_mem member)
  rw [List.count, List.countP_map] at once
  refine Eq.trans (List.countP_congr fun entry _ => ?_) once
  simp

/-- Pruning drops the entries whose locks nothing else refers to. -/
theorem entries_prune :
    l.prune.entries = l.entries.filter fun entry => decide (1 < l.references entry.2) := by
  refine List.filter_congr fun entry member => ?_
  have once : l.entries.countP (·.2 = entry.2) = 1 :=
    sound.countP_entries (show (entry.1, entry.2) ∈ l.entries from member)
  have referred : 1 < l.references entry.2 ↔ l.requests.any (·.lock = entry.2) = true := by
    rw [references, once, List.any_eq_true, ← List.countP_pos_iff]
    omega
  rw [Bool.eq_iff_iff, ← referred, decide_eq_true_iff]

/-- Pruning keeps the entries of the releases that are asked for, and drops all others. -/
theorem lockOf?_prune :
    l.prune.lockOf? key = some lock ↔
      l.lockOf? key = some lock ∧ ∃ r ∈ l.requests, r.release = key := by
  rw [sound.prune.lockOf?_eq_some_iff, sound.lockOf?_eq_some_iff]
  show (key, lock) ∈ l.entries.filter (fun entry => l.requests.any (·.lock = entry.2)) ↔ _
  rw [List.mem_filter, List.any_eq_true]
  refine and_congr_right fun member => ?_
  constructor
  · rintro ⟨r, asking, atLock⟩
    have same := List.inj_on_of_nodup_map sound.locks_nodup (sound.led r asking) member
      (of_decide_eq_true atLock)
    exact ⟨r, asking, congrArg Prod.fst same⟩
  · rintro ⟨r, asking, rfl⟩
    have same := List.inj_on_of_nodup_map sound.releases_nodup (sound.led r asking) member rfl
    exact ⟨r, asking, decide_eq_true (congrArg Prod.snd same)⟩

/-! ## Turns -/

/-- A request holds its lock exactly when it is the first in line of those for its release. -/
theorem isFirst_iff_find? [DecidableEq ι] {r : LockRequest ι} (member : r ∈ l.requests) :
    l.isFirst r = true ↔ l.requests.find? (·.release = r.release) = some r := by
  have lines : l.requests.find? (·.lock = r.lock) = l.requests.find? (·.release = r.release) := by
    refine List.find?_congr fun other asking => ?_
    rw [decide_eq_decide]
    exact ⟨sound.release_of_lock asking member, sound.lock_of_release asking member⟩
  rw [isFirst_iff, holder?, line, List.head?_filter, lines]
  constructor
  · rintro ⟨first, found, named⟩
    rw [found, sound.request_of_name (List.mem_of_find?_eq_some found) member named]
  · intro found
    exact ⟨r, found, rfl⟩

end Sound

end ReleaseLocks

/-! ## Steps -/

/-- Requests for the locks of releases, numbered in the order in which they are led to a lock. -/
structure LockTraffic where
  /-- The locks, with the requests that were led to one and not given up. -/
  led : ReleaseLocks Nat := {}
  /-- Those of the requests that stand in line, in the order in which they lined up. -/
  line : List (LockRequest Nat) := []
  /-- How many requests there were. -/
  asked : Nat := 0

namespace LockTraffic

/-- The locks as those in line see them: the first in line at a lock holds it. -/
def inLine (d : LockTraffic) : ReleaseLocks Nat :=
  { d.led with requests := d.line }

/-- What can happen next. -/
inductive Step where
  /-- A new request is led to the lock of a release. -/
  | lead (release : ReleaseKey)
  /-- A request that was led to a lock takes its place in line. -/
  | lineUp (n : Nat)
  /-- A request is given up, whether it holds its lock, waits in line or is about to line up. -/
  | leave (n : Nat)
  /-- Entries that nobody needs are dropped. -/
  | prune
  deriving DecidableEq

def step (d : LockTraffic) : Step → LockTraffic
  | .lead release => ⟨d.led.request d.asked release, d.line, d.asked + 1⟩
  | .lineUp n =>
    if d.line.any (·.name = n) then d
    else { d with line := d.line ++ d.led.requests.filter (·.name = n) }
  | .leave n => { d with led := d.led.release n, line := d.line.filter (·.name ≠ n) }
  | .prune => { d with led := d.led.prune }

/-- The traffic after some steps, from the start on. -/
def after (steps : List Step) : LockTraffic :=
  steps.foldl step {}

theorem after_append (steps later : List Step) :
    after (steps ++ later) = later.foldl step (after steps) :=
  List.foldl_append

variable {d : LockTraffic} {key : ReleaseKey} {n : Nat}

/-- Whoever stands in line already stays in place. -/
theorem step_lineUp_of_standing (standing : d.line.any (·.name = n) = true) :
    d.step (.lineUp n) = d :=
  if_pos standing

theorem step_lineUp (away : ¬ d.line.any (·.name = n) = true) :
    d.step (.lineUp n) =
      { d with line := d.line ++ d.led.requests.filter (·.name = n) } :=
  if_neg away

/-- What holds of the traffic after every step. -/
structure Orderly (d : LockTraffic) : Prop where
  sound : d.led.Sound
  /-- Whoever stands in line was led there. -/
  among : ∀ r ∈ d.line, r ∈ d.led.requests
  names_nodup : (d.line.map (·.name)).Nodup
  numbered : ∀ r ∈ d.led.requests, r.name < d.asked

namespace Orderly

variable (orderly : d.Orderly)
include orderly

/-- The locks are sound for those in line. -/
theorem inLine : d.inLine.Sound :=
  ⟨orderly.sound.releases_nodup, orderly.sound.locks_nodup, orderly.sound.made,
    fun r member => orderly.sound.led r (orderly.among r member), orderly.names_nodup⟩

theorem not_asks : ¬ d.led.Asks d.asked := by
  rintro ⟨r, member, named⟩
  exact Nat.lt_irrefl _ (named ▸ orderly.numbered r member)

theorem lead (release : ReleaseKey) : (d.step (.lead release)).Orderly := by
  have requests : (d.led.request d.asked release).requests = d.led.requests ++ _ :=
    ReleaseLocks.requests_request d.led d.asked release
  refine ⟨orderly.sound.request orderly.not_asks release, ?_, orderly.names_nodup, ?_⟩
  · intro r member
    show r ∈ (d.led.request d.asked release).requests
    rw [requests]
    exact List.mem_append_left _ (orderly.among r member)
  · intro r member
    rw [show (d.step (.lead release)).led.requests = _ from requests, List.mem_append,
      List.mem_singleton] at member
    rcases member with before | rfl
    · exact Nat.lt_succ_of_lt (orderly.numbered r before)
    · exact Nat.lt_succ_self d.asked

theorem lineUp (n : Nat) : (d.step (.lineUp n)).Orderly := by
  by_cases standing : d.line.any (·.name = n) = true
  · rw [step_lineUp_of_standing standing]
    exact orderly
  · rw [step_lineUp standing]
    have names : ((d.led.requests.filter (·.name = n)).map (·.name)).Nodup :=
      orderly.sound.names_nodup.sublist (List.filter_sublist.map _)
    refine ⟨orderly.sound, ?_, ?_, orderly.numbered⟩
    · intro r member
      rcases List.mem_append.1 member with before | new
      · exact orderly.among r before
      · exact List.mem_of_mem_filter new
    · rw [List.map_append, List.nodup_append]
      refine ⟨orderly.names_nodup, names, ?_⟩
      rintro a before b new rfl
      obtain ⟨r, member, rfl⟩ := List.mem_map.1 before
      obtain ⟨r', member', same⟩ := List.mem_map.1 new
      have named : r'.name = n := of_decide_eq_true (List.mem_filter.1 member').2
      exact standing (List.any_eq_true.2 ⟨r, member, decide_eq_true (same.symm.trans named)⟩)

theorem leave (n : Nat) : (d.step (.leave n)).Orderly := by
  refine ⟨orderly.sound.release n, ?_, orderly.names_nodup.sublist (List.filter_sublist.map _),
    fun r member => orderly.numbered r (List.mem_of_mem_filter member)⟩
  intro r member
  obtain ⟨before, stays⟩ := List.mem_filter.1 member
  exact List.mem_filter.2 ⟨orderly.among r before, stays⟩

theorem prune : (d.step .prune).Orderly :=
  ⟨orderly.sound.prune, orderly.among, orderly.names_nodup, orderly.numbered⟩

/-- Every step keeps the traffic orderly. -/
theorem step (step : Step) : (d.step step).Orderly := by
  cases step with
  | lead release => exact orderly.lead release
  | lineUp n => exact orderly.lineUp n
  | leave n => exact orderly.leave n
  | prune => exact orderly.prune

/-- A request that lines up at once is asked for as `ReleaseLocks.request` does. -/
theorem inLine_lead_lineUp (release : ReleaseKey) :
    ((d.step (.lead release)).step (.lineUp d.asked)).inLine =
      d.inLine.request d.asked release := by
  have away : ¬ (d.step (.lead release)).line.any (·.name = d.asked) = true := by
    intro standing
    obtain ⟨r, member, named⟩ := List.any_eq_true.1 standing
    exact orderly.not_asks ⟨r, orderly.among r member, of_decide_eq_true named⟩
  have others : d.led.requests.filter (·.name = d.asked) = [] := by
    refine List.filter_eq_nil_iff.2 fun r member named => ?_
    exact orderly.not_asks ⟨r, member, of_decide_eq_true named⟩
  have itself : (d.led.request d.asked release).requests.filter (·.name = d.asked) =
      [⟨d.asked, release, (d.led.enter release).1⟩] := by
    rw [ReleaseLocks.requests_request, List.filter_append, others]
    simp
  have lined : ((d.step (.lead release)).step (.lineUp d.asked)).inLine =
      { d.led.request d.asked release with
        requests := d.line ++ [⟨d.asked, release, (d.led.enter release).1⟩] } := by
    rw [step_lineUp away, ← itself]
    rfl
  rw [lined]
  have entered : d.inLine.enter release =
      ((d.led.enter release).1, { (d.led.enter release).2 with requests := d.line }) := by
    have found : d.inLine.lockOf? release = d.led.lockOf? release := rfl
    unfold ReleaseLocks.enter
    rw [found]
    cases d.led.lockOf? release <;> rfl
  simp only [ReleaseLocks.request, entered]

end Orderly

theorem orderly_after (steps : List Step) : (after steps).Orderly := by
  induction steps using List.reverseRecOn with
  | nil => exact ⟨ReleaseLocks.sound_empty, nofun, List.nodup_nil, nofun⟩
  | append_singleton earlier step inductionHypothesis =>
      rw [after_append]
      exact inductionHypothesis.step step

/-! ## Holding a lock -/

/-- Whoever holds a lock keeps it until the request is given up. -/
theorem holdsFor_step {s : Step} (holds : d.inLine.HoldsFor n key) (stays : s ≠ .leave n) :
    (d.step s).inLine.HoldsFor n key := by
  cases s with
  | lead release => exact holds
  | lineUp m =>
      by_cases standing : d.line.any (·.name = m) = true
      · rw [step_lineUp_of_standing standing]
        exact holds
      · rw [step_lineUp standing]
        exact holds.append rfl
  | leave m =>
      have apart : n ≠ m := by
        rintro rfl
        exact stays rfl
      exact holds.release apart
  | prune => exact holds.prune

theorem holdsFor_steps {later : List Step} (holds : d.inLine.HoldsFor n key)
    (stays : .leave n ∉ later) : (later.foldl step d).inLine.HoldsFor n key := by
  induction later generalizing d with
  | nil => exact holds
  | cons s rest inductionHypothesis =>
      obtain ⟨here, there⟩ := not_or.1 (fun among => stays (List.mem_cons.2 among))
      exact inductionHypothesis (holdsFor_step holds (Ne.symm here)) there

/-- Whatever was asked for, lined up, given up and pruned: at most one request holds the lock of a
release, and keeps it until it is given up. All requests for a release were led to the one lock that
its entry leads to. Pruning drops the entries whose locks nothing else refers to, which are those
of the releases that nobody asks for. A request in line waits for nobody but those for its own
release that stand before it. -/
theorem one_holder_for_each_release (steps : List Step) :
    (∀ key m n, (after steps).inLine.HoldsFor m key → (after steps).inLine.HoldsFor n key →
      m = n) ∧
    (∀ key n later, (after steps).inLine.HoldsFor n key → .leave n ∉ later →
      (after (steps ++ later)).inLine.HoldsFor n key) ∧
    (∀ r ∈ (after steps).led.requests,
      (after steps).led.lockOf? r.release = some r.lock) ∧
    (after steps).led.prune.entries = (after steps).led.entries.filter
      (fun entry => decide (1 < (after steps).led.references entry.2)) ∧
    (∀ key lock, (after steps).led.prune.lockOf? key = some lock ↔
      (after steps).led.lockOf? key = some lock ∧
        ∃ r ∈ (after steps).led.requests, r.release = key) ∧
    ∀ r ∈ (after steps).line, (after steps).inLine.isFirst r = true ↔
      (after steps).line.find? (·.release = r.release) = some r := by
  have orderly := orderly_after steps
  refine ⟨?_, ?_, ?_, orderly.sound.entries_prune, ?_, ?_⟩
  · intro key m n holds holds'
    exact orderly.inLine.holder_unique holds holds'
  · intro key n later holds stays
    rw [after_append]
    exact holdsFor_steps holds stays
  · intro r member
    exact orderly.sound.lockOf?_eq_some_iff.2 (orderly.sound.led r member)
  · intro key lock
    exact orderly.sound.lockOf?_prune
  · intro r member
    exact orderly.inLine.isFirst_iff_find? member

/-- A release is asked for again after the entries were pruned beside its holder. -/
def askedAroundPrune : List Step :=
  [.lead ⟨"web", "default"⟩, .lineUp 0, .prune, .lead ⟨"web", "default"⟩, .lineUp 1]

theorem one_holder_for_each_release_around_prune :
    (after askedAroundPrune).inLine.HoldsFor 0 ⟨"web", "default"⟩ ∧
    ¬ (after askedAroundPrune).inLine.HoldsFor 1 ⟨"web", "default"⟩ ∧
    (after (askedAroundPrune ++ [.prune])).inLine.HoldsFor 0 ⟨"web", "default"⟩ := by
  have holds : (after askedAroundPrune).inLine.HoldsFor 0 ⟨"web", "default"⟩ :=
    ⟨⟨0, ⟨"web", "default"⟩, 0⟩, by decide, rfl, rfl, by decide⟩
  obtain ⟨unique, stays, -⟩ := one_holder_for_each_release askedAroundPrune
  refine ⟨holds, ?_, stays _ 0 [.prune] holds (by decide)⟩
  intro holds'
  exact absurd (unique _ 0 1 holds holds') (by decide)

end LockTraffic

end IncidentWatch

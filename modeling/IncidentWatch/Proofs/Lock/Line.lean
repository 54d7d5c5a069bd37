import IncidentWatch.Proofs.Lock.Traffic
import Mathlib.Data.List.TakeWhile

/-!
# Moving up in line

Whoever asks for the lock of a release waits for the requests for it that were made
before (`ahead`), and for nobody else: with none of them left the lock is held, and else
the oldest of them holds it. Later requests line up behind, so whatever others do, those
ahead get no more.
-/

set_option autoImplicit false

namespace IncidentWatch.ReleaseLocks

variable {ι : Type} [DecidableEq ι] {l : ReleaseLocks ι} {name other : ι} {key : ReleaseKey}
  {r first : LockRequest ι}

/-- The requests for a release that were made before the first one of a name. -/
def ahead (l : ReleaseLocks ι) (name : ι) (key : ReleaseKey) : List (LockRequest ι) :=
  (l.requests.takeWhile (·.name ≠ name)).filter (·.release = key)

/-! ## Who holds the lock -/

theorem HoldsFor.asks (holds : l.HoldsFor name key) : l.Asks name := by
  obtain ⟨r, member, named, -⟩ := holds
  exact ⟨r, member, named⟩

theorem HoldsFor.holds (holds : l.HoldsFor name key) : l.holds name = true := by
  obtain ⟨r, member, named, -, first⟩ := holds
  exact List.any_eq_true.2 ⟨r, member, by simp [named, first]⟩

/-- The oldest request for a release, if any, holds its lock. -/
theorem Sound.holdsFor_of_find? (sound : l.Sound)
    (found : l.requests.find? (·.release = key) = some first) : l.HoldsFor first.name key := by
  have member := List.mem_of_find?_eq_some found
  have here : first.release = key := by simpa using List.find?_some found
  exact ⟨first, member, rfl, here, (sound.isFirst_iff_find? member).2 (here ▸ found)⟩

/-- With a request, those ahead of it and those behind make the line of a release. -/
theorem filter_requests_eq (key : ReleaseKey) (member : r ∈ l.requests) (named : r.name = name) :
    ∃ own behind, own ∈ l.requests ∧ own.name = name ∧
      l.requests.filter (·.release = key) =
        l.ahead name key ++ (own :: behind).filter (·.release = key) := by
  have split := List.takeWhile_append_dropWhile (p := fun x => decide (x.name ≠ name))
    (l := l.requests)
  cases rest : l.requests.dropWhile (fun x => decide (x.name ≠ name)) with
  | nil =>
      have away := List.dropWhile_eq_nil_iff.1 rest r member
      exact absurd named (of_decide_eq_true away)
  | cons own behind =>
      rw [rest] at split
      refine ⟨own, behind, ?_, ?_, ?_⟩
      · rw [← split]
        exact List.mem_append_right _ List.mem_cons_self
      · have stops := List.head?_dropWhile_not (fun x => decide (x.name ≠ name)) l.requests
        rw [rest] at stops
        simpa using stops
      · conv_lhs => rw [← split]
        exact List.filter_append _ _

/-- Whoever is ahead of all others that ask for a release holds its lock. -/
theorem Sound.holdsFor_of_ahead_eq_nil (sound : l.Sound) (member : r ∈ l.requests)
    (named : r.name = name) (nobody : l.ahead name r.release = []) :
    l.HoldsFor name r.release := by
  obtain ⟨own, behind, among, named', line⟩ := filter_requests_eq r.release member named
  obtain rfl := sound.request_of_name among member (named'.trans named.symm)
  rw [nobody, List.nil_append, List.filter_cons_of_pos (by simp)] at line
  subst named
  refine sound.holdsFor_of_find? ?_
  rw [← List.head?_filter, line]
  rfl

/-- Else the oldest of those ahead holds the lock. -/
theorem Sound.holdsFor_of_ahead_eq_cons (sound : l.Sound) (member : r ∈ l.requests)
    (named : r.name = name) {rest : List (LockRequest ι)}
    (before : l.ahead name key = first :: rest) : l.HoldsFor first.name key := by
  obtain ⟨own, behind, -, -, line⟩ := filter_requests_eq key member named
  refine sound.holdsFor_of_find? ?_
  rw [← List.head?_filter, line, before]
  rfl

theorem asks_of_mem_ahead (among : r ∈ l.ahead name key) : l.Asks r.name :=
  ⟨r, (List.takeWhile_sublist _).mem (List.mem_of_mem_filter among), rfl⟩

/-! ## What others do -/

/-- Later requests line up behind. -/
theorem ahead_request (asks : l.Asks name) (other : ι) (asked : ReleaseKey) :
    (l.request other asked).ahead name key = l.ahead name key := by
  obtain ⟨r, member, named⟩ := asks
  unfold ahead
  rw [requests_request, List.takeWhile_append, if_neg]
  intro whole
  have all := List.takeWhile_eq_self_iff.1
    ((List.takeWhile_sublist fun x : LockRequest ι => decide (x.name ≠ name)).eq_of_length whole)
  exact of_decide_eq_true (all r member) named

/-- Whoever gives up a request leaves the line. -/
theorem ahead_release (apart : other ≠ name) :
    (l.release other).ahead name key = (l.ahead name key).filter (·.name ≠ other) := by
  have spared : ∀ x : LockRequest ι,
      (!decide (x.name ≠ other) || decide (x.name ≠ name)) = decide (x.name ≠ name) := by
    intro x
    by_cases same : x.name = other
    · simp [same, apart]
    · simp [same]
  unfold ahead ReleaseLocks.release
  rw [List.takeWhile_filter, List.filter_comm]
  simp only [spared]

end IncidentWatch.ReleaseLocks

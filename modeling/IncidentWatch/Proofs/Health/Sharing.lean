import IncidentWatch.Proofs.Health.Streaks

/-!
# Reporting to one registry

All who report do so to one registry of health: between two requests of a program others may
have reported anything (`Moment.others`). The failures of a component in a row are counted up
to a largest number. One more stops whoever reports it, and leaves the count as it is.

So what is counted follows from the reports alone, whoever makes them
(`HealthRegistry.Counts.hear`, `HealthRegistry.Counts.attend`). A program that meets no fault by
itself is stopped exactly where it reports a failure for which there is no room (`HasRoom`),
whatever it is answered and whatever others report (`Program.Unbroken.beside`).
-/

set_option autoImplicit false

namespace IncidentWatch

open HealthRegistry

/-! ## What is counted -/

namespace HealthRegistry

/-- How many failures of a component in a row a registry counts. -/
def failures (r : HealthRegistry) (c : Component) : Nat :=
  ((r.get? c.name).map (·.consecutiveFailures.toNat)).getD 0

/-- The largest number of failures that is counted. -/
def maxFailures : Nat := 4294967295

/-- The registry after others have asked. Whoever reports a failure too many is stopped, and has
changed nothing. -/
def attend (r : HealthRegistry) (asked : List (Instant × Request)) : HealthRegistry :=
  asked.foldl (fun r x => (r.hear x.1 x.2).toOption.getD r) r

/-- A registry counts streaks as far as it can. -/
def Counts (r : HealthRegistry) (streak : Component → Nat) : Prop :=
  ∀ c, r.failures c = min (streak c) maxFailures

end HealthRegistry

theorem Component.name_injective : Function.Injective Component.name := by
  intro c d same
  cases c <;> cases d <;> first | rfl | exact absurd same (by decide)

namespace HealthRegistry

variable {r : HealthRegistry} {streak : Component → Nat}

theorem failures_le (r : HealthRegistry) (c : Component) : r.failures c ≤ maxFailures := by
  unfold failures
  cases r.get? c.name with
  | none => exact Nat.zero_le _
  | some known => exact Nat.le_of_lt_succ known.consecutiveFailures.toNat_lt

theorem counts_failures (r : HealthRegistry) : r.Counts r.failures :=
  fun c => (Nat.min_eq_left (r.failures_le c)).symm

/-- What is known of one component changes the count of no other. -/
theorem failures_set (r : HealthRegistry) (c : Component) (known : ComponentHealth) :
    (r.set c.name known).failures = Function.update r.failures c known.consecutiveFailures.toNat := by
  funext d
  have found : (r.set c.name known).get? d.name = if d.name = c.name then some known
      else r.get? d.name := ByName.get?_insert _ _ _ _
  unfold failures
  rw [found]
  by_cases same : d = c
  · subst same
    simp
  · rw [if_neg fun named => same (Component.name_injective named), Function.update_of_ne same]

/-- One more failure is counted, if a word can count it. -/
theorem fail_eq (r : HealthRegistry) (c : Component) (text : String) (now : Instant) :
    r.fail c.name text now = (Word.uint32 .addOverflow (r.failures c + 1)).map fun streak =>
      r.set c.name ⟨.ofStreak streak.toNat, some text, streak, now⟩ := by
  have counted : ((r.get? c.name).getD (.healthy now)).consecutiveFailures.toNat =
      r.failures c := by
    unfold failures
    cases r.get? c.name <;> rfl
  unfold fail ComponentHealth.afterFailure
  dsimp only
  rw [counted]
  cases Word.uint32 .addOverflow (r.failures c + 1) <;> rfl

namespace Counts

variable (counts : r.Counts streak)
include counts

/-- What is known of a component is replaced. -/
theorem set (c : Component) {known : ComponentHealth} {failures : Nat}
    (counted : known.consecutiveFailures.toNat = min failures maxFailures) :
    (r.set c.name known).Counts (Function.update streak c failures) := by
  intro d
  rw [failures_set]
  by_cases same : d = c
  · subst same
    rw [Function.update_self, Function.update_self, counted]
  · rw [Function.update_of_ne same, Function.update_of_ne same, counts]

/-- Where there is room, a request is heard, and a report counted. -/
theorem hear {request : Request}
    (room : ∀ c, request.mark? = some (c, true) → streak c < maxFailures) (now : Instant) :
    ∃ r', r.hear now request = .ok r' ∧ r'.Counts (request.mark?.toList.foldl bump streak) := by
  cases request with
  | succeeded c => exact ⟨_, rfl, counts.set c rfl⟩
  | failed c text =>
      have few := room c rfl
      have exactly : r.failures c = streak c := (counts c).trans (Nat.min_eq_left (Nat.le_of_lt few))
      have word : streak c + 1 < 4294967296 := Nat.succ_lt_succ few
      have heard : r.fail c.name text now = .ok (r.set c.name
          ⟨.ofStreak (UInt32.ofNat (streak c + 1)).toNat, some text, UInt32.ofNat (streak c + 1),
            now⟩) := by
        rw [fail_eq, exactly, Word.uint32, if_pos word]
        rfl
      refine ⟨_, heard, counts.set c ?_⟩
      show (UInt32.ofNat (streak c + 1)).toNat = min (streak c + 1) maxFailures
      rw [UInt32.toNat_ofNat_of_lt' word, Nat.min_eq_left few]
  | _ => exact ⟨r, rfl, counts⟩

/-- Where there is no room, whoever reports a failure is stopped. -/
theorem hear_of_full {request : Request} {c : Component} (reports : request.mark? = some (c, true))
    (full : maxFailures ≤ streak c) (now : Instant) :
    r.hear now request = .error .addOverflow := by
  cases request with
  | failed d text =>
      cases reports
      have many : ¬ r.failures c + 1 < 4294967296 := by
        rw [counts, Nat.min_eq_right full]
        decide
      show r.fail c.name text now = _
      rw [fail_eq, Word.uint32, if_neg many]
      rfl
  | _ => cases reports

/-- What others report is counted as far as there is room. -/
theorem attend (asked : List (Instant × Request)) :
    (r.attend asked).Counts ((asked.filterMap (·.2.mark?)).foldl bump streak) := by
  induction asked generalizing r streak with
  | nil => exact counts
  | cons x rest inductionHypothesis =>
      have split : (x :: rest).filterMap (·.2.mark?) =
          x.2.mark?.toList ++ rest.filterMap (·.2.mark?) := by
        cases told : x.2.mark? <;> simp [told]
      rw [split, List.foldl_append]
      refine inductionHypothesis ?_
      dsimp only
      by_cases full : ∃ c, x.2.mark? = some (c, true) ∧ maxFailures ≤ streak c
      · obtain ⟨c, reports, full⟩ := full
        rw [counts.hear_of_full reports full, reports]
        intro d
        show r.failures d = min (Function.update streak c (streak c + 1) d) maxFailures
        by_cases same : d = c
        · subst same
          rw [Function.update_self, counts, Nat.min_eq_right full,
            Nat.min_eq_right (Nat.le_succ_of_le full)]
        · rw [Function.update_of_ne same, counts]
      · have room : ∀ c, x.2.mark? = some (c, true) → streak c < maxFailures :=
          fun c reports => Nat.lt_of_not_le fun le => full ⟨c, reports, le⟩
        obtain ⟨r', heard, counts'⟩ := counts.hear room x.1
        rw [heard]
        exact counts'

end Counts

end HealthRegistry

/-! ## Programs beside others -/

/-- What happens about a request of a program: what others ask before it, when it is made, and what
it is answered. -/
structure Moment where
  others : List (Instant × Request)
  now : Instant
  answer : (r : Request) → r.Answer

/-- A report on a component, of which it is known whether it is the program's own. -/
structure Notice where
  own : Bool
  mark : Component × Bool

/-- What is reported up to a request of a program and with it. -/
def Moment.notices (m : Moment) (request : Request) : List Notice :=
  (m.others.filterMap (·.2.mark?)).map (⟨false, ·⟩) ++ request.mark?.toList.map (⟨true, ·⟩)

namespace Program

variable {α β : Type}

/-- What a program comes to beside others who report to the same registry, and the registry then,
from the moment of a number on. -/
def beside (moments : Nat → Moment) : Program α → Nat → HealthRegistry →
    Except Fault α × HealthRegistry
  | .done a, _, r => (.ok a, r)
  | .halt fault, _, r => (.error fault, r)
  | .ask request next, n, r =>
    let r := r.attend (moments n).others
    match r.hear (moments n).now request with
    | .error fault => (.error fault, r)
    | .ok r => (next ((moments n).answer request)).beside moments (n + 1) r

/-- All that a program and the others report, if the program is not stopped. -/
def told (moments : Nat → Moment) : Program α → Nat → List Notice
  | .ask request next, n =>
    (moments n).notices request ++ (next ((moments n).answer request)).told moments (n + 1)
  | _, _ => []

/-- A program that meets no fault by itself, whatever it is answered. -/
def Unbroken : Program α → Prop
  | .done _ => True
  | .halt _ => False
  | .ask _ next => ∀ a, (next a).Unbroken

theorem Unbroken.bind {p : Program α} {f : α → Program β} (first : p.Unbroken)
    (rest : ∀ a, (f a).Unbroken) : (p >>= f).Unbroken := by
  show (p.andThen f).Unbroken
  induction p with
  | done a => exact rest a
  | halt fault => exact first.elim
  | ask r next inductionHypothesis => exact fun a => inductionHypothesis a (first a)

/-- After a program that came to a value, whatever follows goes on from a later moment. -/
theorem beside_bind (moments : Nat → Moment) (p : Program α) (n : Nat) (r : HealthRegistry) :
    ∃ k, ∀ {β : Type} (f : α → Program β), (p >>= f).beside moments n r =
      match p.beside moments n r with
      | (.ok a, r') => (f a).beside moments k r'
      | (.error fault, r') => (.error fault, r') := by
  show ∃ k, ∀ {β : Type} (f : α → Program β), (p.andThen f).beside moments n r = _
  induction p generalizing n r with
  | done a => exact ⟨n, fun _ => rfl⟩
  | halt fault => exact ⟨n, fun _ => rfl⟩
  | ask request next inductionHypothesis =>
      simp only [andThen, beside]
      cases (r.attend (moments n).others).hear (moments n).now request with
      | error fault => exact ⟨n, fun _ => rfl⟩
      | ok r' => exact inductionHypothesis _ (n + 1) r'

end Program

/-- Wherever a program reports a failure of a component, fewer failures in a row than can be counted
were reported of it before; `streak` is what they were at first. -/
def HasRoom : (Component → Nat) → List Notice → Prop
  | _, [] => True
  | streak, x :: rest =>
    (x.own = true → x.mark.2 = true → streak x.mark.1 < maxFailures) ∧
      HasRoom (bump streak x.mark) rest

theorem hasRoom_append {streak : Component → Nat} {xs ys : List Notice} :
    HasRoom streak (xs ++ ys) ↔
      HasRoom streak xs ∧ HasRoom ((xs.map (·.mark)).foldl bump streak) ys := by
  induction xs generalizing streak with
  | nil => simp [HasRoom]
  | cons x rest inductionHypothesis =>
      simp only [List.cons_append, HasRoom, inductionHypothesis, and_assoc, List.map_cons,
        List.foldl_cons]

theorem hasRoom_of_others {streak : Component → Nat} {xs : List Notice}
    (others : ∀ x ∈ xs, x.own = false) : HasRoom streak xs := by
  induction xs generalizing streak with
  | nil => trivial
  | cons x rest inductionHypothesis =>
      obtain ⟨other, others'⟩ := List.forall_mem_cons.1 others
      exact ⟨fun own => absurd (other ▸ own) nofun, inductionHypothesis others'⟩

/-- There is room for everything where few reports are made in all. -/
theorem hasRoom_of_few {streak : Component → Nat} {xs : List Notice}
    (few : ∀ c, streak c + xs.length ≤ maxFailures) : HasRoom streak xs := by
  induction xs generalizing streak with
  | nil => trivial
  | cons x rest inductionHypothesis =>
      simp only [List.length_cons] at few
      refine ⟨fun _ _ => ?_, inductionHypothesis fun c => ?_⟩
      · have := few x.mark.1
        omega
      · have grown := bump_le streak x.mark c
        have single : [x.mark].countP (·.1 = c) ≤ 1 := List.countP_le_length
        have := few c
        omega

/-- Only for the program's own report there has to be room, after what others have reported. -/
theorem hasRoom_notices {streak : Component → Nat} {m : Moment} {request : Request}
    {rest : List Notice} :
    HasRoom streak (m.notices request ++ rest) ↔
      (∀ c, request.mark? = some (c, true) →
        (m.others.filterMap (·.2.mark?)).foldl bump streak c < maxFailures) ∧
      HasRoom (request.mark?.toList.foldl bump
        ((m.others.filterMap (·.2.mark?)).foldl bump streak)) rest := by
  have others : ∀ x ∈ (m.others.filterMap (·.2.mark?)).map (⟨false, ·⟩ : _ → Notice),
      x.own = false := by
    rintro _ member
    obtain ⟨mark, -, rfl⟩ := List.mem_map.1 member
    rfl
  have marks (own : Bool) (reported : List (Component × Bool)) :
      (reported.map (⟨own, ·⟩ : _ → Notice)).map (·.mark) = reported := by
    simp [Function.comp_def]
  rw [Moment.notices, List.append_assoc, hasRoom_append, hasRoom_append, marks, marks]
  simp only [hasRoom_of_others others, true_and]
  refine and_congr_left fun _ => ?_
  cases request.mark? with
  | none => simp [HasRoom]
  | some mark =>
      obtain ⟨c, failed⟩ := mark
      cases failed <;> simp [HasRoom]

namespace Program

/-- A program that meets no fault by itself comes to its end where there is room for all that it
reports, and is stopped otherwise. -/
theorem Unbroken.beside {α : Type} {p : Program α} (unbroken : p.Unbroken)
    {r : HealthRegistry} {streak : Component → Nat} (counts : r.Counts streak)
    (moments : Nat → Moment) (n : Nat) :
    (HasRoom streak (p.told moments n) → ∃ a, (p.beside moments n r).1 = .ok a) ∧
      (¬ HasRoom streak (p.told moments n) →
        (p.beside moments n r).1 = .error .addOverflow) := by
  induction p generalizing r streak n with
  | done a => exact ⟨fun _ => ⟨a, rfl⟩, fun none => absurd trivial none⟩
  | halt fault => exact unbroken.elim
  | ask request next inductionHypothesis =>
      have attended := counts.attend (moments n).others
      rw [told, hasRoom_notices, Program.beside]
      by_cases room : ∀ c, request.mark? = some (c, true) →
          ((moments n).others.filterMap (·.2.mark?)).foldl bump streak c < maxFailures
      · obtain ⟨r', heard, counts'⟩ := attended.hear room (moments n).now
        rw [heard, and_iff_right room]
        exact inductionHypothesis _ (unbroken _) counts' (n + 1)
      · refine ⟨fun room' => absurd room'.1 room, fun _ => ?_⟩
        simp only [not_forall, Nat.not_lt] at room
        obtain ⟨c, reports, full⟩ := room
        rw [attended.hear_of_full reports full]

end Program

end IncidentWatch

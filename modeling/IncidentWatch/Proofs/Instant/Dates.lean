import Mathlib.Tactic.IntervalCases
import IncidentWatch.Instant.Calendar

/-!
# Days and dates

A day number lies in the year that is computed for it, hence in the month that is found by counting
the months that have begun (`monthOf_bounds`), and so its date exists (`isValid_ofDay`) and has that
day number (`toDay_ofDay`). Years keep the order of their first days, which bounds the year of a day
(`yearOf_ge`, `yearOf_lt`).
-/

set_option autoImplicit false

namespace IncidentWatch.Date

/-! ## Months -/

theorem daysBefore_lt (leap : Bool) {month : Nat} (first : 1 ≤ month) (last : month ≤ 12) :
    daysBefore leap month < daysBefore leap (month + 1) := by
  cases leap <;> interval_cases month <;> decide

theorem daysBefore_le (leap : Bool) {earlier later : Nat} (first : 1 ≤ earlier)
    (order : earlier ≤ later) (last : later ≤ 13) :
    daysBefore leap earlier ≤ daysBefore leap later := by
  induction later, order using Nat.le_induction with
  | base => exact Nat.le_refl _
  | succ later order inductionHypothesis =>
    have next := daysBefore_lt leap (Nat.le_trans first order) (by omega)
    have := inductionHypothesis (by omega)
    omega

/-- When the numbers below one with a property have it too, counting those that have it finds where
the property ends. -/
theorem lt_length_filter_range {p : Nat → Bool} {n : Nat}
    (down : ∀ a b, a ≤ b → b < n → p b = true → p a = true) {m : Nat} (small : m < n) :
    m < ((List.range n).filter p).length ↔ p m = true := by
  induction n with
  | zero => omega
  | succ n inductionHypothesis =>
    rw [List.range_succ, List.filter_append, List.length_append]
    by_cases last : p n = true
    · have all : (List.range n).filter p = List.range n :=
        List.filter_eq_self.2 fun a member =>
          down a n (Nat.le_of_lt (List.mem_range.1 member)) (Nat.lt_succ_self n) last
      have here := down m n (Nat.le_of_lt_succ small) (Nat.lt_succ_self n) last
      simp [all, last, here]
      omega
    · have short : ((List.range n).filter p).length ≤ n := by
        simpa using List.length_filter_le p (List.range n)
      rcases Nat.lt_succ_iff_lt_or_eq.1 small with earlier | rfl
      · simpa [last] using inductionHypothesis
          (fun a b order within => down a b order (Nat.lt_succ_of_lt within)) earlier
      · simpa [last] using short

/-- A day of a year lies in its month. -/
theorem monthOf_bounds {leap : Bool} {day : Nat} (inYear : day < daysBefore leap 13) :
    1 ≤ monthOf leap day ∧ monthOf leap day ≤ 12 ∧
      daysBefore leap (monthOf leap day) ≤ day ∧ day < daysBefore leap (monthOf leap day + 1) := by
  have begun {m : Nat} (month : m < 12) :
      m < monthOf leap day ↔ daysBefore leap (m + 1) ≤ day := by
    unfold monthOf
    rw [lt_length_filter_range _ month, decide_eq_true_eq]
    intro a b order within later
    rw [decide_eq_true_eq] at later ⊢
    exact Nat.le_trans (daysBefore_le leap (by omega) (by omega) (by omega)) later
  have most : monthOf leap day ≤ 12 := by
    have := List.length_filter_le (fun m => daysBefore leap (m + 1) ≤ day) (List.range 12)
    rwa [List.length_range] at this
  have first : 0 < monthOf leap day := (begun (by decide)).2 (Nat.zero_le day)
  refine ⟨first, most, ?_, ?_⟩
  · have := (begun (m := monthOf leap day - 1) (by omega)).1 (by omega)
    rwa [Nat.sub_add_cancel first] at this
  · rcases Nat.lt_or_eq_of_le most with inside | last
    · exact Nat.lt_of_not_le fun later => Nat.lt_irrefl _ ((begun inside).2 later)
    · rwa [last]

theorem monthLength_le (leap : Bool) {month : Nat} (first : 1 ≤ month) (last : month ≤ 12) :
    monthLength leap month ≤ 31 := by
  cases leap <;> interval_cases month <;> decide

/-! ## Years -/

theorem yearStart_le {a b : Int} (order : a ≤ b) : yearStart a ≤ yearStart b := by
  unfold yearStart
  omega

theorem yearLength_eq (year : Int) : yearLength year = daysBefore (isLeapYear year) 13 := by
  unfold yearLength
  cases isLeapYear year <;> rfl

/-- The days of a year counted from its first. -/
theorem dayOfYear_bounds (day : Int) :
    0 ≤ day - yearStart (yearOf day) ∧
      (day - yearStart (yearOf day)).toNat < daysBefore (isLeapYear (yearOf day)) 13 := by
  have within := yearStart_yearOf_le day
  rw [yearStart_succ, yearLength_eq] at within
  omega

theorem yearOf_ge {year day : Int} (after : yearStart year ≤ day) : year ≤ yearOf day := by
  have within := (yearStart_yearOf_le day).2
  by_contra before
  have := yearStart_le (by omega : yearOf day + 1 ≤ year)
  omega

theorem yearOf_lt {year day : Int} (before : day < yearStart year) : yearOf day < year := by
  have within := (yearStart_yearOf_le day).1
  by_contra after
  have := yearStart_le (by omega : year ≤ yearOf day)
  omega

/-! ## Dates of days -/

/-- The date of a day number exists. -/
theorem isValid_ofDay (day : Int) : (ofDay day).IsValid := by
  obtain ⟨-, inYear⟩ := dayOfYear_bounds day
  obtain ⟨first, last, begins, ends⟩ := monthOf_bounds inYear
  refine ⟨first, last, Nat.le_add_left 1 _, ?_⟩
  show _ ≤ daysBefore _ _ - daysBefore _ _
  simp only [ofDay]
  omega

/-- The date of a day number has that number. -/
theorem toDay_ofDay (day : Int) : (ofDay day).toDay = day := by
  obtain ⟨nonneg, inYear⟩ := dayOfYear_bounds day
  obtain ⟨-, -, begins, -⟩ := monthOf_bounds inYear
  simp only [toDay, ofDay]
  omega

end IncidentWatch.Date

/-!
# The calendar

Days are counted from the first of January 1970 in the Gregorian calendar, which
is used for all years, the year zero and the negative years included. A date is
valid when its month and its day of the month exist. The years follow one
another without a gap (`yearStart_succ`), and the year computed for a day is the
one that the day lies in (`yearStart_yearOf_le`).
-/

set_option autoImplicit false

namespace IncidentWatch

/-- A year, a month from one to twelve and a day of the month. -/
structure Date where
  year : Int
  month : Nat
  day : Nat
  deriving DecidableEq, Repr

namespace Date

/-- Every fourth year is a leap year, but of the full centuries only every fourth. -/
def isLeapYear (year : Int) : Bool :=
  year % 4 == 0 && (year % 100 != 0 || year % 400 == 0)

/-- The number of days in a year. -/
def yearLength (year : Int) : Int :=
  if isLeapYear year then 366 else 365

/-- The days of a year that come before a month; the thirteenth stands for the next year. -/
def daysBefore (leap : Bool) (month : Nat) : Nat :=
  let extra := if leap then 1 else 0
  match month with
  | 1 => 0
  | 2 => 31
  | 3 => 59 + extra
  | 4 => 90 + extra
  | 5 => 120 + extra
  | 6 => 151 + extra
  | 7 => 181 + extra
  | 8 => 212 + extra
  | 9 => 243 + extra
  | 10 => 273 + extra
  | 11 => 304 + extra
  | 12 => 334 + extra
  | _ => 365 + extra

/-- The number of days in a month. -/
def monthLength (leap : Bool) (month : Nat) : Nat :=
  daysBefore leap (month + 1) - daysBefore leap month

/-- Whether the month and the day of a date exist. -/
def IsValid (d : Date) : Prop :=
  1 ≤ d.month ∧ d.month ≤ 12 ∧ 1 ≤ d.day ∧ d.day ≤ monthLength (isLeapYear d.year) d.month

instance (d : Date) : Decidable d.IsValid :=
  inferInstanceAs (Decidable (_ ∧ _))

/-- The day number of the first of January. -/
def yearStart (year : Int) : Int :=
  365 * (year - 1970) + ((year - 1) / 4 - (year - 1) / 100 + (year - 1) / 400 - 477)

/-- The day number of a date. -/
def toDay (d : Date) : Int :=
  yearStart d.year + daysBefore (isLeapYear d.year) d.month + (d.day - 1)

/-- The year that a day number lies in, by cycles of four hundred, a hundred, four and one
years; the last century of a cycle and the last year of four may be a day longer. -/
def yearOf (day : Int) : Int :=
  let sinceYearOne := day + 719162
  let inCycle := sinceYearOne % 146097
  let century := min (inCycle / 36524) 3
  let inCentury := inCycle - 36524 * century
  let inFour := inCentury % 1461
  400 * (sinceYearOne / 146097) + 100 * century + 4 * (inCentury / 1461)
    + min (inFour / 365) 3 + 1

/-- The month that a day of the year lies in, counted from zero. -/
def monthOf (leap : Bool) (dayOfYear : Nat) : Nat :=
  ((List.range 12).filter fun m => daysBefore leap (m + 1) ≤ dayOfYear).length

/-- The date of a day number. -/
def ofDay (day : Int) : Date :=
  let year := yearOf day
  let leap := isLeapYear year
  let dayOfYear := (day - yearStart year).toNat
  let month := monthOf leap dayOfYear
  ⟨year, month, dayOfYear - daysBefore leap month + 1⟩

/-- The years follow one another without a gap. -/
theorem yearStart_succ (year : Int) : yearStart (year + 1) = yearStart year + yearLength year := by
  unfold yearStart yearLength isLeapYear
  simp only [Bool.and_eq_true, beq_iff_eq, Bool.or_eq_true, bne_iff_ne]
  split <;> omega

/-- The first day of a year that is given by its place in the cycles. -/
theorem yearStart_cycles {cycle century four single : Int} (hc : 0 ≤ century ∧ century ≤ 3)
    (hf : 0 ≤ four ∧ four ≤ 24) (hs : 0 ≤ single ∧ single ≤ 3) :
    yearStart (400 * cycle + 100 * century + 4 * four + single + 1) =
      146097 * cycle + 36524 * century + 1461 * four + 365 * single - 719162 := by
  unfold yearStart
  omega

/-- The length of a year that is given by its place in the cycles. -/
theorem yearLength_cycles {cycle century four single : Int} (hc : 0 ≤ century ∧ century ≤ 3)
    (hf : 0 ≤ four ∧ four ≤ 24) (hs : 0 ≤ single ∧ single ≤ 3) :
    yearLength (400 * cycle + 100 * century + 4 * four + single + 1) =
      if single = 3 ∧ (four ≠ 24 ∨ century = 3) then 366 else 365 := by
  have h4 : (400 * cycle + 100 * century + 4 * four + single + 1) % 4 = 0 ↔ single = 3 := by omega
  have h100 : (400 * cycle + 100 * century + 4 * four + single + 1) % 100 = 0 ↔
      single = 3 ∧ four = 24 := by omega
  have h400 : (400 * cycle + 100 * century + 4 * four + single + 1) % 400 = 0 ↔
      single = 3 ∧ four = 24 ∧ century = 3 := by omega
  unfold yearLength isLeapYear
  simp only [Bool.and_eq_true, beq_iff_eq, Bool.or_eq_true, bne_iff_ne, ne_eq, h4, h100, h400]
  grind

/-- A day lies in its year. -/
theorem yearStart_yearOf_le (day : Int) :
    yearStart (yearOf day) ≤ day ∧ day < yearStart (yearOf day + 1) := by
  unfold yearOf
  dsimp only
  generalize hn : day + 719162 = n
  have hr : 0 ≤ n % 146097 ∧ n % 146097 < 146097 := by omega
  have hn' : n = 146097 * (n / 146097) + n % 146097 := by omega
  generalize n % 146097 = r at hr hn' ⊢
  have hc : 0 ≤ min (r / 36524) 3 ∧ min (r / 36524) 3 ≤ 3 := by omega
  have hm : min (r / 36524) 3 = 3 ∨ r - 36524 * min (r / 36524) 3 < 36524 := by omega
  have hm' : 0 ≤ r - 36524 * min (r / 36524) 3 ∧ r - 36524 * min (r / 36524) 3 ≤ 36524 := by omega
  generalize min (r / 36524) 3 = century at hc hm hm' ⊢
  generalize hs : r - 36524 * century = s at hm hm' ⊢
  have hf : 0 ≤ s / 1461 ∧ s / 1461 ≤ 24 := by omega
  have hs' : s = 1461 * (s / 1461) + s % 1461 := by omega
  have ht : 0 ≤ s % 1461 ∧ s % 1461 < 1461 := by omega
  have h24 : s / 1461 = 24 → s % 1461 ≤ 1460 ∧ (century ≠ 3 → s % 1461 < 1460) := by omega
  generalize s / 1461 = four at hf hs' h24 ⊢
  generalize s % 1461 = t at hs' ht h24 ⊢
  have hd : 0 ≤ min (t / 365) 3 ∧ min (t / 365) 3 ≤ 3 := by omega
  have hq : 365 * min (t / 365) 3 ≤ t ∧ (t < 365 * min (t / 365) 3 + 365 ∨
      min (t / 365) 3 = 3 ∧ t = 1460) := by omega
  generalize min (t / 365) 3 = single at hd hq ⊢
  refine ⟨by rw [yearStart_cycles hc hf hd]; omega, ?_⟩
  rw [yearStart_succ, yearStart_cycles hc hf hd, yearLength_cycles hc hf hd]
  split <;> omega

end Date

end IncidentWatch

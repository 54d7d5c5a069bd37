/-!
# Sets of code points by their bounds

A set of code points is given by the ascending list of the places where
membership changes: the set starts at the first bound, stops before the second,
starts again at the third. A number is a member exactly when an odd number of
bounds is at or below it.
-/

set_option autoImplicit false

namespace IncidentWatch.Text

/-- Whether a number lies in the set that the ascending bounds describe. -/
def inSpans (bounds : List Nat) (n : Nat) : Bool :=
  (bounds.takeWhile (· ≤ n)).length % 2 == 1

/-- No bounds describe the empty set. -/
theorem inSpans_nil (n : Nat) : inSpans [] n = false := rfl

/-- A set of one span has the numbers from its start to before its end. -/
theorem inSpans_pair (a b n : Nat) :
    inSpans [a, b] n = decide (a ≤ n ∧ n < b) := by
  unfold inSpans
  by_cases ha : a ≤ n
  · by_cases hb : b ≤ n
    · simp [List.takeWhile, ha, hb]
    · simp [List.takeWhile, ha, hb, Nat.lt_of_not_le hb]
  · simp [List.takeWhile, ha]

end IncidentWatch.Text

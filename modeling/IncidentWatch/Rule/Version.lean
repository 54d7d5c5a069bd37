import IncidentWatch.Text.Blank
import IncidentWatch.Text.Numeral

/-!
# Cluster versions

A cluster names its version in many spellings: with blanks around it, with
letters `v` before it, with a patch level or a suffix after it. Only the leading
digits of the first two parts count; together they are the minor version, which
chooses the rules.
-/

set_option autoImplicit false

namespace IncidentWatch.Version

open Text

/-- The digits at the start of a part, if there are any. -/
def leadingDigits? (part : List Char) : Option (List Char) :=
  let digits := part.takeWhile isDigit
  if digits = [] then none else some digits

/-- The part before the first point, and what stands after that point. -/
def splitPoint (cs : List Char) : List Char × Option (List Char) :=
  match cs.dropWhile (· ≠ '.') with
  | [] => (cs, none)
  | _ :: rest => (cs.takeWhile (· ≠ '.'), some rest)

/-- The minor version that a spelling names. -/
def normalizeChars? (cs : List Char) : Option (List Char) := do
  let (first, rest) := splitPoint ((trim cs).dropWhile (· = 'v'))
  let major ← leadingDigits? first
  let minor ← leadingDigits? (splitPoint (← rest)).1
  return major ++ '.' :: minor

/-- The minor version that a spelling names, as a string. -/
def normalize? (s : String) : Option String :=
  (normalizeChars? s.toList).map String.ofList

/-- The number between the first two points, or zero if it is none. -/
def minorNumber (s : String) : Nat :=
  match (splitPoint s.toList).2 with
  | none => 0
  | some rest => (unsigned? 4294967295 (splitPoint rest).1).getD 0

end IncidentWatch.Version

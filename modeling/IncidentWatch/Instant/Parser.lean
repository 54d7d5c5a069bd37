import IncidentWatch.Instant.Basic
import IncidentWatch.Text.Numeral
import IncidentWatch.Text.Blank

/-!
# Reading instants

A written instant is a date, one of `T`, `t` or a space, a time of day and an
offset from universal time. Blanks are allowed before each number, before the
signs between the numbers and at the very end. A year has up to four digits, or
a sign and any number of them; the other numbers have one or two. A fraction has
at least one digit, and those after the ninth do not count. The offset is `Z`,
the letters `UTC` in any case, or a sign with two digits of hours and two of
minutes. Second sixty is the leap second of any minute.
-/

set_option autoImplicit false

namespace IncidentWatch.Instant

open Text

/-- At least one and at most `most` digits, and what follows them. -/
def readDigits (most : Nat) (cs : List Char) : Option (List Char × List Char) :=
  let digits := (cs.take most).takeWhile isDigit
  if digits = [] then none else some (digits, cs.drop digits.length)

/-- A number of one or two digits, after blanks. -/
def readPair (cs : List Char) : Option (Nat × List Char) :=
  (readDigits 2 (trimStart cs)).map fun (digits, rest) => (value digits, rest)

/-- A year, after blanks. -/
def readYear (cs : List Char) : Option (Int × List Char) :=
  let signed (sign : Int) (rest : List Char) : Option (Int × List Char) :=
    let digits := rest.takeWhile isDigit
    if digits = [] then none else some (sign * value digits, rest.dropWhile isDigit)
  match trimStart cs with
  | '-' :: rest => signed (-1) rest
  | '+' :: rest => signed 1 rest
  | rest => (readDigits 4 rest).map fun (digits, after) => ((value digits : Int), after)

/-- The sign expected next, after blanks. -/
def readSign (sign : Char) (cs : List Char) : Option (List Char) :=
  match trimStart cs with
  | c :: rest => if c = sign then some rest else none
  | [] => none

/-- The nanoseconds of a fraction, if one follows. -/
def readFraction (cs : List Char) : Option (Nat × List Char) :=
  match cs with
  | '.' :: rest =>
    let digits := rest.takeWhile isDigit
    let counted := digits.take 9
    if digits = [] then none
    else some (value counted * Nat.pow 10 (9 - counted.length), rest.dropWhile isDigit)
  | _ => some (0, cs)

/-- The ASCII capital of a small letter. -/
def capital (c : Char) : Char :=
  if 'a' ≤ c ∧ c ≤ 'z' then Char.ofNat (c.toNat - 32) else c

/-- Two digits of a number below `bound`. -/
def readTwo (bound : Nat) (cs : List Char) : Option (Nat × List Char) :=
  match cs with
  | a :: b :: rest =>
    let n := value [a, b]
    if isDigit a && isDigit b && n < bound then some (n, rest) else none
  | _ => none

/-- The offset from universal time, in seconds. -/
def readOffset (cs : List Char) : Option (Int × List Char) :=
  if (cs.take 3).map capital = ['U', 'T', 'C'] then some (0, cs.drop 3)
  else
    let signed (sign : Int) (rest : List Char) : Option (Int × List Char) := do
      let (hours, rest) ← readTwo 24 rest
      let (minutes, rest) ← readTwo 60 (rest.dropWhile fun c => c = ':' || isBlank c)
      return (sign * (hours * 3600 + minutes * 60), rest)
    match cs with
    | 'Z' :: rest => some (0, rest)
    | 'z' :: rest => some (0, rest)
    | '+' :: rest => signed 1 rest
    | '-' :: rest => signed (-1) rest
    | '\u2212' :: rest => signed (-1) rest
    | _ => none

/-- A time of day: its second, and its nanoseconds with those of a leap second. -/
def readTime (cs : List Char) : Option ((Nat × Nat) × List Char) := do
  let (hour, cs) ← readPair cs
  let (minute, cs) ← readPair (← readSign ':' cs)
  let (second, cs) ← readPair (← readSign ':' cs)
  let (nano, cs) ← readFraction cs
  if hour < 24 ∧ minute < 60 ∧ second ≤ 60 then
    let inDay := hour * 3600 + minute * 60
    if second = 60 then some ((inDay + 59, nano + 1000000000), cs)
    else some ((inDay + second, nano), cs)
  else none

/-- A date of the calendar. -/
def readDate (cs : List Char) : Option (Date × List Char) := do
  let (year, cs) ← readYear cs
  let (month, cs) ← readPair (← readSign '-' cs)
  let (day, cs) ← readPair (← readSign '-' cs)
  let date : Date := ⟨year, month, day⟩
  if date.IsValid ∧ -262143 ≤ year ∧ year ≤ 262142 then some (date, cs) else none

/-- The instant that a text denotes. -/
def read? (cs : List Char) : Option Instant := do
  let (date, cs) ← readDate cs
  let cs ← match cs with
    | c :: rest => if c = 'T' ∨ c = 't' ∨ c = ' ' then some rest else none
    | [] => none
  let ((inDay, nano), cs) ← readTime cs
  let (offset, cs) ← readOffset (trimStart cs)
  if trimStart cs = [] then ofParts? (date.toDay * 86400 + inDay - offset) nano else none

/-- The instant that a string denotes. -/
def parse? (s : String) : Option Instant :=
  read? s.toList

end IncidentWatch.Instant

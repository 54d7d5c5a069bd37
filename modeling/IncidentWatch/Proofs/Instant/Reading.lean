import IncidentWatch.Instant.Parser
import IncidentWatch.Instant.Printer
import IncidentWatch.Proofs.Instant.Dates
import IncidentWatch.Proofs.Text.Numerals

/-!
# Reading written instants

The reader of instants takes blanks between the parts, numbers of one digit, offsets of all kinds
and years of any length. On a written instant none of that choice is left: every number is filled
up to its width, which is all that the reader takes (`readPair_padded`), a year outside the four
digits carries the sign that the reader looks for (`readYear_writeYear`), and the digits of the
fraction count from the left, so that leaving off zeros in threes changes nothing
(`readFraction_writeFraction`).

The date is that of a day of the calendar, which exists and has that day's number. A clock shows the
second sixty in leap seconds only (`writtenSecond_bounds`), so an instant on a clock comes back, leap
second and year of any sign included (`parse?_render`). But a leap second may follow any second, and
one inside a minute is written like the second after it (`render_shown`).
-/

set_option autoImplicit false

namespace IncidentWatch.Instant

open Text

/-! ## Numbers and signs -/

theorem trimStart_cons {c : Char} (rest : List Char) (noBlank : isBlank c = false) :
    trimStart (c :: rest) = c :: rest := by
  simp [trimStart, noBlank]

theorem trimStart_padded (width n : Nat) (rest : List Char) :
    trimStart (padded width n ++ rest) = padded width n ++ rest := by
  obtain ⟨c, digits, split⟩ := List.exists_cons_of_ne_nil (padded_ne_nil width n)
  have digit : isDigit c = true := isDigit_of_mem_padded c (split ▸ List.mem_cons_self)
  rw [split]
  exact trimStart_cons _ (isBlank_of_isDigit digit)

theorem readDigits_padded {width n : Nat} (fits : n < 10 ^ (width + 1)) (rest : List Char) :
    readDigits (width + 1) (padded (width + 1) n ++ rest) = some (padded (width + 1) n, rest) := by
  have wide := length_padded fits
  have taken : (padded (width + 1) n ++ rest).take (width + 1) = padded (width + 1) n :=
    List.take_left' wide
  have all : (padded (width + 1) n).takeWhile isDigit = padded (width + 1) n :=
    List.takeWhile_eq_self_iff.2 isDigit_of_mem_padded
  unfold readDigits
  rw [taken, all]
  dsimp only
  rw [if_neg (padded_ne_nil _ _), List.drop_left]

theorem readPair_padded {n : Nat} (fits : n < 100) (rest : List Char) :
    readPair (padded 2 n ++ rest) = some (n, rest) := by
  rw [readPair, trimStart_padded, readDigits_padded fits]
  simp only [Option.map_some, value_padded]

theorem readSign_cons {sign : Char} (noBlank : isBlank sign = false) (rest : List Char) :
    readSign sign (sign :: rest) = some rest := by
  simp only [readSign, trimStart_cons rest noBlank, if_true]

/-- A year is read as it was written, with or without a sign. -/
theorem readYear_writeYear (year : Int) {rest : List Char} (stops : StopsDigits rest) :
    readYear (writeYear year ++ rest) = some (year, rest) := by
  have run : ∀ c ∈ padded 4 year.natAbs, isDigit c = true := isDigit_of_mem_padded
  have taken := takeWhile_isDigit_append run stops
  have dropped := dropWhile_isDigit_append run stops
  unfold writeYear
  split_ifs with plain negative
  · obtain ⟨c, digits, split⟩ := List.exists_cons_of_ne_nil (padded_ne_nil 4 year.natAbs)
    have digit : isDigit c = true := run c (split ▸ List.mem_cons_self)
    have numeral := readDigits_padded (by omega : year.natAbs < 10 ^ 4) rest
    rw [readYear, trimStart_padded]
    split
    · rename_i same
      rw [split] at same
      cases same
      cases digit
    · rename_i same
      rw [split] at same
      cases same
      cases digit
    · rw [numeral]
      simp only [Option.map_some, value_padded, Int.natAbs_of_nonneg plain.1]
  · rw [readYear, List.cons_append, trimStart_cons _ (by decide)]
    simp only [taken, dropped, if_neg (padded_ne_nil 4 year.natAbs), value_padded]
    congr 2
    omega
  · rw [readYear, List.cons_append, trimStart_cons _ (by decide)]
    simp only [taken, dropped, if_neg (padded_ne_nil 4 year.natAbs), value_padded]
    congr 2
    omega

/-- The digits of a fraction count from the left. -/
theorem readFraction_padded {width n : Nat} (short : width < 9) (fits : n < 10 ^ (width + 1))
    {rest : List Char} (stops : StopsDigits rest) :
    readFraction ('.' :: padded (width + 1) n ++ rest) =
      some (n * 10 ^ (9 - (width + 1)), rest) := by
  have run : ∀ c ∈ padded (width + 1) n, isDigit c = true := isDigit_of_mem_padded
  have wide := length_padded fits
  have counted : (padded (width + 1) n).take 9 = padded (width + 1) n :=
    List.take_of_length_le (by omega)
  simp only [List.cons_append, readFraction, takeWhile_isDigit_append run stops,
    dropWhile_isDigit_append run stops, counted, if_neg (padded_ne_nil _ _), value_padded, wide]
  rfl

theorem readFraction_writeFraction {nano : Nat} (fits : nano < 1000000000) (rest : List Char) :
    readFraction (writeFraction nano ++ 'Z' :: rest) = some (nano, 'Z' :: rest) := by
  have stops : StopsDigits ('Z' :: rest) := stopsDigits_cons (by decide)
  unfold writeFraction
  split_ifs with whole milli micro
  · subst whole
    rfl
  · rw [readFraction_padded (by decide : 2 < 9) (by omega) stops]
    congr 2
    omega
  · rw [readFraction_padded (by decide : 5 < 9) (by omega) stops]
    congr 2
    omega
  · rw [readFraction_padded (by decide : 8 < 9) (by omega) stops]
    congr 2
    omega

/-! ## Dates and times of day -/

/-- A date of the calendar is read as it was written. -/
theorem readDate_written {date : Date} (valid : date.IsValid) (first : -262143 ≤ date.year)
    (last : date.year ≤ 262142) (rest : List Char) :
    readDate (writeYear date.year ++ '-' :: (padded 2 date.month ++ '-' ::
      (padded 2 date.day ++ rest))) = some (date, rest) := by
  obtain ⟨monthFirst, monthLast, dayFirst, dayLast⟩ := valid
  have days := Date.monthLength_le (Date.isLeapYear date.year) monthFirst monthLast
  have dash : isBlank '-' = false := by decide
  simp only [readDate, Option.bind_eq_bind, Option.bind_some,
    readYear_writeYear date.year (stopsDigits_cons (by decide : isDigit '-' = false)),
    readSign_cons dash, readPair_padded (by omega : date.month < 100),
    readPair_padded (by omega : date.day < 100)]
  rw [if_pos ⟨⟨monthFirst, monthLast, dayFirst, dayLast⟩, first, last⟩]

/-- A time of day is read as it was written; the second sixty is a leap second. -/
theorem readTime_written {hour minute second nano : Nat} (hours : hour < 24) (minutes : minute < 60)
    (seconds : second ≤ 60) (nanos : nano < 1000000000) (rest : List Char) :
    readTime (padded 2 hour ++ ':' :: (padded 2 minute ++ ':' :: (padded 2 second ++
      (writeFraction nano ++ 'Z' :: rest)))) =
        some (if second = 60 then (hour * 3600 + minute * 60 + 59, nano + 1000000000)
          else (hour * 3600 + minute * 60 + second, nano), 'Z' :: rest) := by
  have colon : isBlank ':' = false := by decide
  simp only [readTime, Option.bind_eq_bind, Option.bind_some, readSign_cons colon,
    readPair_padded (by omega : hour < 100), readPair_padded (by omega : minute < 100),
    readPair_padded (by omega : second < 100), readFraction_writeFraction nanos]
  rw [if_pos ⟨hours, minutes, seconds⟩]
  split_ifs <;> rfl

/-! ## Instants -/

/-- The day of an instant lies in the calendar. -/
theorem year_bounds (t : Instant) :
    -262143 ≤ (Date.ofDay (t.second / 86400)).year ∧
      (Date.ofDay (t.second / 86400)).year ≤ 262142 := by
  obtain ⟨first, last⟩ := calendar_bounds
  have starts := t.second_ge
  have ends := t.second_le
  have := Date.yearOf_ge (by omega : Date.yearStart (-262143) ≤ t.second / 86400)
  have := Date.yearOf_lt (by omega : t.second / 86400 < Date.yearStart 262143)
  simp only [Date.ofDay]
  omega

/-- A clock shows a leap second as the second sixty of a minute, so there is one after the last second
of a minute only. -/
def IsOnClock (t : Instant) : Prop :=
  t.isLeap = true → t.second % 60 = 59

instance (t : Instant) : Decidable t.IsOnClock :=
  inferInstanceAs (Decidable (_ → _))

/-- The second of the minute that an instant is written with, a leap second with the next one. -/
def writtenSecond (t : Instant) : Nat :=
  (t.second % 86400).toNat % 60 + if t.isLeap then 1 else 0

/-- The nanoseconds of the written second. -/
def writtenNano (t : Instant) : Nat :=
  if t.isLeap then t.nano - 1000000000 else t.nano

theorem write_eq (t : Instant) :
    t.write = writeYear (Date.ofDay (t.second / 86400)).year ++
      '-' :: (padded 2 (Date.ofDay (t.second / 86400)).month ++
      '-' :: (padded 2 (Date.ofDay (t.second / 86400)).day ++
      'T' :: (padded 2 ((t.second % 86400).toNat / 3600) ++
      ':' :: (padded 2 ((t.second % 86400).toNat / 60 % 60) ++
      ':' :: (padded 2 t.writtenSecond ++ (writeFraction t.writtenNano ++ ['Z'])))))) := by
  unfold write writtenSecond writtenNano
  cases t.isLeap <;> simp

/-- On a clock, sixty is written in leap seconds only. -/
theorem writtenSecond_bounds {t : Instant} (onClock : t.IsOnClock) :
    t.writtenSecond ≤ 60 ∧ (t.writtenSecond = 60 ↔ t.isLeap = true) := by
  unfold IsOnClock at onClock
  unfold writtenSecond
  cases leap : t.isLeap with
  | true =>
      have last := onClock leap
      simp only [if_true, iff_true]
      omega
  | false =>
      simp only [Bool.false_eq_true, if_false, iff_false]
      omega

theorem writtenNano_lt (t : Instant) : t.writtenNano < 1000000000 := by
  have bound := t.nano_lt
  unfold writtenNano isLeap
  by_cases leap : 1000000000 ≤ t.nano
  · simp only [leap, decide_true, if_true]
    omega
  · simp only [leap, decide_false, Bool.false_eq_true, if_false]
    omega

/-- The text of an instant on a clock is read as the instant. -/
theorem parse?_render {t : Instant} (onClock : t.IsOnClock) : parse? t.render = some t := by
  obtain ⟨firstYear, lastYear⟩ := year_bounds t
  obtain ⟨seconds, leaps⟩ := writtenSecond_bounds onClock
  have inDay : (t.second % 86400).toNat / 3600 < 24 := by omega
  have zone : readOffset (trimStart ['Z']) = some (0, []) := by decide
  have done : trimStart [] = [] := rfl
  rw [parse?, render, String.toList_ofList, write_eq]
  simp only [read?, Option.bind_eq_bind, Option.bind_some, true_or, if_true,
    readDate_written (Date.isValid_ofDay _) firstYear lastYear,
    readTime_written inDay (Nat.mod_lt _ (by decide)) seconds (writtenNano_lt t), zone, done,
    Date.toDay_ofDay]
  rw [ofParts?_eq_some_iff]
  by_cases leap : t.isLeap = true
  · have late : 1000000000 ≤ t.nano := by simpa [isLeap] using leap
    have atEnd := onClock leap
    rw [if_pos (leaps.2 leap), writtenNano, if_pos leap]
    dsimp only
    omega
  · rw [if_neg (fun sixty => leap (leaps.1 sixty)), writtenNano, writtenSecond, if_neg leap,
      if_neg leap]
    dsimp only
    omega

/-! ### Leap seconds inside a minute -/

/-- The instant that a clock shows: a leap second inside a minute looks like the second after it. -/
def shown (t : Instant) : Instant :=
  if inside : t.isLeap = true ∧ t.second % 60 ≠ 59 then
    have starts := t.second_ge
    have ends := t.second_le
    have bound := t.nano_lt
    ⟨t.second + 1, t.nano - 1000000000, by omega, by omega, by omega⟩
  else t

theorem isOnClock_shown (t : Instant) : t.shown.IsOnClock := by
  by_cases inside : t.isLeap = true ∧ t.second % 60 ≠ 59
  · have bound := t.nano_lt
    intro leap
    rw [shown, dif_pos inside, isLeap, decide_eq_true_eq] at leap
    dsimp only at leap
    omega
  · rw [shown, dif_neg inside]
    exact fun leap => not_not.1 fun other => inside ⟨leap, other⟩

/-- What a clock shows is what is written. -/
theorem render_shown (t : Instant) : t.shown.render = t.render := by
  by_cases inside : t.isLeap = true ∧ t.second % 60 ≠ 59
  · obtain ⟨leap, other⟩ := id inside
    have bound := t.nano_lt
    have late : 1000000000 ≤ t.nano := by simpa [isLeap] using leap
    have regular : t.shown.isLeap = false := by
      rw [shown, dif_pos inside, isLeap, decide_eq_false_iff_not]
      dsimp only
      omega
    have second : t.shown.second = t.second + 1 := by rw [shown, dif_pos inside]
    have nano : t.shown.nano = t.nano - 1000000000 := by rw [shown, dif_pos inside]
    have day : (t.second + 1) / 86400 = t.second / 86400 := by omega
    have hour : ((t.second + 1) % 86400).toNat / 3600 = (t.second % 86400).toNat / 3600 := by omega
    have minute : ((t.second + 1) % 86400).toNat / 60 % 60 =
        (t.second % 86400).toNat / 60 % 60 := by omega
    have written : t.shown.writtenSecond = t.writtenSecond := by
      simp only [writtenSecond, regular, leap, second, if_true, Bool.false_eq_true, if_false]
      omega
    have fraction : t.shown.writtenNano = t.writtenNano := by
      simp only [writtenNano, regular, leap, nano, if_true, Bool.false_eq_true, if_false]
    rw [render, render, write_eq, write_eq, second, day, hour, minute, written, fraction]
  · rw [shown, dif_neg inside]

end IncidentWatch.Instant

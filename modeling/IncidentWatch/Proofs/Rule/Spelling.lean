import IncidentWatch.Proofs.Rule.Declared
import IncidentWatch.Proofs.Text.Trimming

/-!
# Minor versions as they are spelled

A spelling has its blanks around it, then letters `v`, then the digits of the major number, and
behind the first point those of the minor number; what follows either of the two is passed over
(`Spells`). These spellings name a minor version and no others do (`normalizeChars?_eq_some_iff`),
for each step of the reader finds the one way to split what is left: the trimming, the letters, the
digits at the start of a part, the first point.

What is named is two numerals with a point between them, which is a spelling of itself
(`normalize?_normalize?`), so a book answers a spelling as it answers the minor version.
-/

set_option autoImplicit false

namespace IncidentWatch.Version

open Text

variable {part digits major minor first rest cs core r : List Char}

/-- A spelling of a minor version, without the blanks around it. -/
inductive Spells : List Char → List Char → List Char → Prop where
  | intro (letters : Nat) {major behindMajor minor behindMinor : List Char}
      (numeralMajor : IsNumeral major) (stopsMajor : StopsDigits behindMajor)
      (unpointed : '.' ∉ behindMajor)
      (numeralMinor : IsNumeral minor) (stopsMinor : StopsDigits behindMinor) :
      Spells (List.replicate letters 'v' ++
        (major ++ behindMajor ++ '.' :: (minor ++ behindMinor))) major minor

/-! ## The steps of the reader -/

/-- The digits at the start of a part are a numeral that no digit follows. -/
theorem leadingDigits?_eq_some_iff : leadingDigits? part = some digits ↔
    ∃ behind, part = digits ++ behind ∧ IsNumeral digits ∧ StopsDigits behind := by
  constructor
  · intro found
    unfold leadingDigits? at found
    by_cases none : part.takeWhile isDigit = []
    · simp [none] at found
    · rw [if_neg none] at found
      cases found
      exact ⟨part.dropWhile isDigit, List.takeWhile_append_dropWhile.symm,
        ⟨fun c member => List.mem_takeWhile_imp member, none⟩,
        head?_dropWhile_eq_false isDigit part⟩
  · rintro ⟨behind, rfl, numeral, stops⟩
    rw [leadingDigits?, takeWhile_isDigit_append numeral.run stops, if_neg numeral.any]

/-- A text is split at its first point. -/
theorem splitPoint_eq_some_iff :
    splitPoint cs = (first, some rest) ↔ cs = first ++ '.' :: rest ∧ '.' ∉ first := by
  constructor
  · intro split
    unfold splitPoint at split
    split at split
    · simp at split
    · next c behind found =>
        cases split
        have point : c = '.' := by
          simpa using head?_dropWhile_eq_false (· ≠ '.') cs c (by rw [found]; rfl)
        have parts := List.takeWhile_append_dropWhile (p := (· ≠ '.')) (l := cs)
        rw [found, point] at parts
        exact ⟨parts.symm, fun member => by simpa using List.mem_takeWhile_imp member⟩
  · rintro ⟨rfl, unpointed⟩
    have others : ∀ c ∈ first, decide (c ≠ '.') = true := fun c member =>
      decide_eq_true (ne_of_mem_of_not_mem member unpointed)
    unfold splitPoint
    rw [List.dropWhile_append_of_pos others, List.takeWhile_append_of_pos others]
    simp

/-- A point ends the digits of a part anyway. -/
theorem leadingDigits?_splitPoint (cs : List Char) :
    leadingDigits? (splitPoint cs).1 = leadingDigits? cs := by
  have upToPoint : (splitPoint cs).1 = cs.takeWhile (· ≠ '.') := by
    unfold splitPoint
    split
    · next none => rw [List.takeWhile_eq_self_iff.2 (List.dropWhile_eq_nil_iff.1 none)]
    · rfl
  have digitsOnly : (fun c => decide (isDigit c = true ∧ decide (c ≠ '.') = true)) = isDigit := by
    funext c
    by_cases point : c = '.'
    · subst point
      decide
    · simp [point]
  rw [leadingDigits?, upToPoint, List.takeWhile_takeWhile, digitsOnly, leadingDigits?]

/-- The letters before a numeral are those that are there. -/
theorem dropWhile_letters (letters : Nat) (numeral : IsNumeral digits) :
    (List.replicate letters 'v' ++ (digits ++ rest)).dropWhile (· = 'v') = digits ++ rest := by
  obtain ⟨c, others, rfl⟩ := List.exists_cons_of_ne_nil numeral.any
  have noLetter : c ≠ 'v' := ne_of_mem_of_not_mem List.mem_cons_self (numeral.not_mem (by decide))
  refine dropWhile_append_of_stops (fun v member => ?_) (fun d first => ?_)
  · exact decide_eq_true (List.eq_of_mem_replicate member)
  · obtain rfl : c = d := Option.some_inj.1 first
    exact decide_eq_false noLetter

/-! ## The spellings -/

theorem exists_replicate_letters (cs : List Char) :
    ∃ letters, cs = List.replicate letters 'v' ++ cs.dropWhile (· = 'v') := by
  have letters : ∀ c ∈ cs.takeWhile (· = 'v'), c = 'v' := fun c member => by
    simpa using List.mem_takeWhile_imp member
  refine ⟨(cs.takeWhile (· = 'v')).length, ?_⟩
  rw [← List.eq_replicate_of_mem letters, List.takeWhile_append_dropWhile]

/-- The spellings, with blanks around them or none, are what names a minor version. -/
theorem normalizeChars?_eq_some_iff : normalizeChars? cs = some r ↔
    ∃ core major minor, Surrounds cs core ∧ Spells core major minor ∧
      r = major ++ '.' :: minor := by
  constructor
  · -- Each step of the reader splits what the step before it left, and the parts make up the text.
    intro named
    rcases parts : splitPoint ((trim cs).dropWhile (· = 'v')) with ⟨first, rest⟩
    simp only [normalizeChars?, parts, Option.bind_eq_bind, Option.bind_eq_some_iff] at named
    obtain ⟨major, foundMajor, rest, rfl, minor, foundMinor, same⟩ := named
    cases same
    obtain ⟨left, unpointed⟩ := splitPoint_eq_some_iff.1 parts
    obtain ⟨behindMajor, rfl, numeralMajor, stopsMajor⟩ := leadingDigits?_eq_some_iff.1 foundMajor
    rw [leadingDigits?_splitPoint] at foundMinor
    obtain ⟨behindMinor, rfl, numeralMinor, stopsMinor⟩ := leadingDigits?_eq_some_iff.1 foundMinor
    obtain ⟨letters, split⟩ := exists_replicate_letters (trim cs)
    refine ⟨trim cs, major, minor, surrounds_trim cs, ?_, rfl⟩
    rw [split, left]
    exact .intro letters numeralMajor stopsMajor
      (fun member => unpointed (List.mem_append_right major member)) numeralMinor stopsMinor
  · -- The first point of a spelling is the one between its numbers: a numeral has no point.
    rintro ⟨core, major, minor, around, spells, rfl⟩
    obtain ⟨letters, numeralMajor, stopsMajor, unpointed, numeralMinor, stopsMinor⟩ := spells
    rename_i behindMajor behindMinor
    have point : splitPoint (major ++ behindMajor ++ '.' :: (minor ++ behindMinor)) =
        (major ++ behindMajor, some (minor ++ behindMinor)) :=
      splitPoint_eq_some_iff.2 ⟨rfl, fun member =>
        (List.mem_append.1 member).elim (numeralMajor.not_mem (by decide)) unpointed⟩
    have foundMajor := leadingDigits?_eq_some_iff.2 ⟨behindMajor, rfl, numeralMajor, stopsMajor⟩
    have foundMinor := leadingDigits?_eq_some_iff.2 ⟨behindMinor, rfl, numeralMinor, stopsMinor⟩
    rw [List.append_assoc] at around
    rw [List.append_assoc] at point
    simp only [normalizeChars?, trim_of_surrounds around, dropWhile_letters letters numeralMajor,
      point, foundMajor, leadingDigits?_splitPoint, foundMinor, Option.bind_eq_bind,
      Option.bind_some]
    rfl

theorem normalize?_eq_some_iff {s minor : String} : normalize? s = some minor ↔
    ∃ core digitsMajor digitsMinor, Surrounds s.toList core ∧ Spells core digitsMajor digitsMinor ∧
      minor.toList = digitsMajor ++ '.' :: digitsMinor := by
  rw [← normalizeChars?_eq_some_iff, normalize?, Option.map_eq_some_iff]
  constructor
  · rintro ⟨r, found, rfl⟩
    rwa [String.toList_ofList]
  · exact fun found => ⟨minor.toList, found, String.ofList_toList⟩

/-- A minor version is a spelling of itself. -/
theorem spells_self (numeralMajor : IsNumeral major) (numeralMinor : IsNumeral minor) :
    Spells (major ++ '.' :: minor) major minor := by
  simpa using
    Spells.intro 0 numeralMajor stopsDigits_nil List.not_mem_nil numeralMinor stopsDigits_nil

/-- A minor version names itself. -/
theorem normalize?_normalize? {s minor : String} (named : normalize? s = some minor) :
    normalize? minor = some minor := by
  obtain ⟨core, major, minor', -, ⟨letters, numeralMajor, -, -, numeralMinor, -⟩, written⟩ :=
    normalize?_eq_some_iff.1 named
  have unblank : ∀ c ∈ major ++ '.' :: minor', isBlank c = false := by
    intro c member
    rcases List.mem_append.1 member with inMajor | behind
    · exact isBlank_of_isDigit (numeralMajor.run c inMajor)
    · rcases List.mem_cons.1 behind with rfl | inMinor
      · decide
      · exact isBlank_of_isDigit (numeralMinor.run c inMinor)
  refine normalize?_eq_some_iff.2 ⟨_, major, minor', ?_, spells_self numeralMajor numeralMinor,
    written⟩
  rw [written]
  exact trim_eq_iff.1 (trim_eq_self unblank)

/-- A minor version is named by its spellings and by nothing else, and a book answers each of them
as it answers the minor version. -/
theorem minor_versions_are_named_by_their_spellings (s minor : String) :
    (normalize? s = some minor ↔
      ∃ core digitsMajor digitsMinor, Surrounds s.toList core ∧
        Spells core digitsMajor digitsMinor ∧
        minor.toList = digitsMajor ++ '.' :: digitsMinor) ∧
    (normalize? s = some minor → normalize? minor = some minor ∧ ∀ b : RuleBook,
      b.table? s = b.table? minor ∧ ∀ e, b.classify s e = b.classify minor e) := by
  refine ⟨normalize?_eq_some_iff, fun named => ⟨normalize?_normalize? named, fun b => ?_⟩⟩
  have same : b.table? s = b.table? minor := by
    rw [RuleBook.table?_of_normalize? named,
      RuleBook.table?_of_normalize? (normalize?_normalize? named)]
  exact ⟨same, fun e => by rw [RuleBook.classify, RuleBook.classify, same]⟩

/-- A wide blank before, two letters, and something behind either number. -/
theorem minor_versions_are_named_by_their_spellings_of_decorated :
    normalize? "\u2003vv1-rc.30+gke.7\n" = some "1.30" ∧ normalize? "1.30" = some "1.30" ∧
      RuleBook.builtin.table? "\u2003vv1-rc.30+gke.7\n" = RuleBook.builtin.table? "1.30" := by
  have spells : Spells (List.replicate 2 'v' ++ (['1'] ++ ['-', 'r', 'c'] ++
      '.' :: (['3', '0'] ++ ['+', 'g', 'k', 'e', '.', '7']))) ['1'] ['3', '0'] :=
    .intro 2 ⟨List.all_eq_true.1 rfl, List.cons_ne_nil _ _⟩ (stopsDigits_cons rfl) (by decide)
      ⟨List.all_eq_true.1 rfl, List.cons_ne_nil _ _⟩ (stopsDigits_cons rfl)
  have around : Surrounds "\u2003vv1-rc.30+gke.7\n".toList (List.replicate 2 'v' ++
      (['1'] ++ ['-', 'r', 'c'] ++ '.' :: (['3', '0'] ++ ['+', 'g', 'k', 'e', '.', '7']))) := by
    refine ⟨⟨['\u2003'], ['\n'], rfl, List.all_eq_true.1 rfl, List.all_eq_true.1 rfl⟩, ?_, ?_⟩ <;>
      rintro c ⟨⟩ <;> rfl
  have meaning := minor_versions_are_named_by_their_spellings "\u2003vv1-rc.30+gke.7\n" "1.30"
  have named := meaning.1.2 ⟨_, _, _, around, spells, rfl⟩
  exact ⟨named, (meaning.2 named).1, ((meaning.2 named).2 RuleBook.builtin).1⟩

/-- No digit before the point, none behind it, a digit of another script. -/
example : normalize? "v.28" = none ∧ normalize? "1." = none ∧ normalize? "\uff11.28" = none := by
  decide +kernel

end IncidentWatch.Version

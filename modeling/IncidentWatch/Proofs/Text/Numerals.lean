import Mathlib.Algebra.Group.Nat.Defs
import Mathlib.Data.List.TakeWhile
import IncidentWatch.Text.Blank
import IncidentWatch.Text.Numeral

/-!
# Numerals inside a text

A numeral is a run of digits, so whoever takes digits as long as there are any takes the whole
numeral and stops behind it (`takeWhile_isDigit_append`, `dropWhile_isDigit_append`). The shortest
numeral of a number does not start with a zero unless it is one (`head?_decimal`), and it is as
short as the number is small (`length_decimal_le`); filled up to a width that is enough for the
number, a numeral has that width (`length_padded`) and still denotes the number (`value_padded`).
-/

set_option autoImplicit false

namespace IncidentWatch.Text

/-! ## Shortest numerals -/

theorem decimal_of_lt {n : Nat} (small : n < 10) : decimal n = [digitOf n] := by
  rw [decimal, if_pos small]

theorem decimal_of_le {n : Nat} (large : 10 ≤ n) :
    decimal n = decimal (n / 10) ++ [digitOf (n % 10)] := by
  rw [decimal, if_neg (by omega)]

theorem isDigit_of_mem_decimal {n : Nat} : ∀ c ∈ decimal n, isDigit c = true := by
  induction n using Nat.strongRecOn with
  | ind n inductionHypothesis =>
    intro c member
    by_cases small : n < 10
    · rw [decimal_of_lt small, List.mem_singleton] at member
      exact member ▸ isDigit_digitOf small
    · rw [decimal_of_le (by omega), List.mem_append, List.mem_singleton] at member
      rcases member with before | rfl
      · exact inductionHypothesis (n / 10) (by omega) c before
      · exact isDigit_digitOf (by omega)

theorem decimal_ne_nil (n : Nat) : decimal n ≠ [] := by
  by_cases small : n < 10
  · simp [decimal_of_lt small]
  · simp [decimal_of_le (Nat.le_of_not_lt small)]

theorem digitOf_ne_zero {n : Nat} (small : n < 10) (positive : n ≠ 0) : digitOf n ≠ '0' := by
  intro zero
  have := digitValue_digitOf small
  rw [zero] at this
  exact positive this.symm

/-- Only the numeral of zero starts with a zero. -/
theorem head?_decimal {n : Nat} (positive : n ≠ 0) : (decimal n).head? ≠ some '0' := by
  induction n using Nat.strongRecOn with
  | ind n inductionHypothesis =>
    by_cases small : n < 10
    · rw [decimal_of_lt small, List.head?_cons, ne_eq, Option.some.injEq]
      exact digitOf_ne_zero small positive
    · have shorter := inductionHypothesis (n / 10) (by omega) (by omega)
      obtain ⟨c, digits, split⟩ := List.exists_cons_of_ne_nil (decimal_ne_nil (n / 10))
      rw [split] at shorter
      rw [decimal_of_le (by omega), split]
      exact shorter

/-- A numeral of several digits does not start with a zero. -/
theorem decimal_ne_zero_cons (n : Nat) (c : Char) (digits : List Char) :
    decimal n ≠ '0' :: c :: digits := by
  intro leading
  by_cases zero : n = 0
  · rw [zero, decimal_of_lt (by decide)] at leading
    exact absurd (List.cons.inj leading).2 (List.cons_ne_nil c digits).symm
  · exact head?_decimal zero (by rw [leading]; rfl)

/-- A numeral has as few digits as the powers of ten allow. -/
theorem length_decimal_le {width n : Nat} (small : n < 10 ^ (width + 1)) :
    (decimal n).length ≤ width + 1 := by
  induction width generalizing n with
  | zero => simp [decimal_of_lt (by omega : n < 10)]
  | succ width inductionHypothesis =>
    by_cases single : n < 10
    · simp [decimal_of_lt single]
    · have shorter : n / 10 < 10 ^ (width + 1) := by
        rw [Nat.div_lt_iff_lt_mul (by decide), ← Nat.pow_succ]
        exact small
      rw [decimal_of_le (by omega), List.length_append, List.length_singleton]
      have := inductionHypothesis shorter
      omega

/-- Further digits only make a number larger. -/
theorem le_valueFrom (start : Nat) (digits : List Char) : start ≤ valueFrom start digits := by
  induction digits generalizing start with
  | nil => exact Nat.le_refl start
  | cons c digits inductionHypothesis =>
    have := inductionHypothesis (10 * start + digitValue c)
    show start ≤ valueFrom (10 * start + digitValue c) digits
    omega

/-! ## Filled numerals -/

theorem isDigit_of_mem_padded {width n : Nat} : ∀ c ∈ padded width n, isDigit c = true := by
  intro c member
  rcases List.mem_append.1 member with zero | digit
  · rw [List.eq_of_mem_replicate zero]
    decide
  · exact isDigit_of_mem_decimal c digit

theorem padded_ne_nil (width n : Nat) : padded width n ≠ [] :=
  List.append_ne_nil_of_right_ne_nil _ (decimal_ne_nil n)

/-- A numeral that fits a width is filled up to it. -/
theorem length_padded {width n : Nat} (fits : n < 10 ^ (width + 1)) :
    (padded (width + 1) n).length = width + 1 := by
  have := length_decimal_le fits
  simp only [padded, List.length_append, List.length_replicate]
  omega

theorem valueFrom_replicate_zero (zeros : Nat) (digits : List Char) :
    valueFrom 0 (List.replicate zeros '0' ++ digits) = valueFrom 0 digits := by
  induction zeros with
  | zero => rfl
  | succ zeros inductionHypothesis => exact inductionHypothesis

/-- Leading zeros do not count. -/
theorem value_padded (width n : Nat) : value (padded width n) = n :=
  (valueFrom_replicate_zero _ _).trans (value_decimal n)

/-! ## Numerals with a sign -/

/-- A text of digits, of which there is one at least. -/
structure IsNumeral (digits : List Char) : Prop where
  run : ∀ c ∈ digits, isDigit c = true
  any : digits ≠ []

theorem IsNumeral.not_mem {digits : List Char} {c : Char} (numeral : IsNumeral digits)
    (other : isDigit c = false) : c ∉ digits := fun member => by
  simp [numeral.run c member] at other

/-- The signs that a numeral may have when its number is not negative. -/
def IsSign (sign : List Char) (n : Nat) : Prop :=
  sign = [] ∨ sign = ['+'] ∨ sign = ['-'] ∧ n = 0

theorem natOf?_of_isNumeral {digits : List Char} (numeral : IsNumeral digits) :
    natOf? digits = some (value digits) :=
  if_pos ⟨numeral.any, List.all_eq_true.2 numeral.run⟩

theorem natOf?_eq_some_iff {cs : List Char} {n : Nat} :
    natOf? cs = some n ↔ IsNumeral cs ∧ value cs = n := by
  constructor
  · intro found
    unfold natOf? at found
    split at found
    · rename_i digits
      exact ⟨⟨List.all_eq_true.1 digits.2, digits.1⟩, Option.some.inj found⟩
    · cases found
  · rintro ⟨numeral, rfl⟩
    exact natOf?_of_isNumeral numeral

/-- What is read without a sign or behind a plus sign is a numeral up to the bound. -/
theorem unsigned?_eq_some_iff {bound n : Nat} {cs : List Char} :
    unsigned? bound cs = some n ↔ n ≤ bound ∧ ∃ sign digits, (sign = [] ∨ sign = ['+']) ∧
      cs = sign ++ digits ∧ IsNumeral digits ∧ value digits = n := by
  unfold unsigned?
  rw [Option.filter_eq_some_iff, decide_eq_true_eq, and_comm]
  refine and_congr_right fun _ => ?_
  constructor
  · intro found
    split at found
    · rename_i rest
      exact ⟨['+'], rest, Or.inr rfl, rfl, natOf?_eq_some_iff.1 found⟩
    · exact ⟨[], cs, Or.inl rfl, rfl, natOf?_eq_some_iff.1 found⟩
  · rintro ⟨sign, digits, signed, rfl, numeral, counted⟩
    have found := natOf?_eq_some_iff.2 ⟨numeral, counted⟩
    rcases signed with rfl | rfl
    · have noPlus : '+' ∉ digits := numeral.not_mem (by decide)
      split
      · rename_i rest leading
        exact absurd (leading ▸ List.mem_cons_self : '+' ∈ [] ++ digits) noPlus
      · exact found
    · exact found

theorem digitValue_eq_zero_iff {c : Char} (digit : isDigit c = true) :
    digitValue c = 0 ↔ c = '0' := by
  simp only [isDigit, decide_eq_true_eq, Char.le_def, UInt32.le_iff_toNat_le] at digit
  have lower : 48 ≤ c.toNat := digit.1
  refine ⟨fun zero => Char.toNat_inj.1 (?_ : c.toNat = 48), fun zero => zero ▸ rfl⟩
  unfold digitValue at zero
  omega

/-- Only zeros denote nothing. -/
theorem valueFrom_eq_zero_iff {start : Nat} {digits : List Char}
    (run : ∀ c ∈ digits, isDigit c = true) :
    valueFrom start digits = 0 ↔ start = 0 ∧ ∀ c ∈ digits, c = '0' := by
  induction digits generalizing start with
  | nil => simp [valueFrom]
  | cons c rest inductionHypothesis =>
    obtain ⟨digit, others⟩ := List.forall_mem_cons.1 run
    show valueFrom (10 * start + digitValue c) rest = 0 ↔ _
    rw [inductionHypothesis others, Nat.add_eq_zero_iff, digitValue_eq_zero_iff digit,
      List.forall_mem_cons, and_assoc]
    refine and_congr_left fun _ => ?_
    omega

theorem IsNumeral.value_eq_zero_iff {digits : List Char} (numeral : IsNumeral digits) :
    value digits = 0 ↔ ∃ zeros, digits = List.replicate (zeros + 1) '0' := by
  rw [value, valueFrom_eq_zero_iff numeral.run]
  constructor
  · rintro ⟨-, zeros⟩
    obtain ⟨c, rest, rfl⟩ := List.exists_cons_of_ne_nil numeral.any
    exact ⟨rest.length, List.eq_replicate_of_mem zeros⟩
  · rintro ⟨zeros, rfl⟩
    exact ⟨rfl, fun c member => List.eq_of_mem_replicate member⟩

theorem isNumeral_replicate_zero (zeros : Nat) : IsNumeral (List.replicate (zeros + 1) '0') :=
  ⟨fun c member => List.eq_of_mem_replicate member ▸ by decide, nofun⟩

theorem signed?_of_isSign {bound : Nat} {sign digits : List Char}
    (isSign : IsSign sign (value digits)) (numeral : IsNumeral digits)
    (fits : value digits ≤ bound) :
    signed? bound (sign ++ digits) = some (value digits : Int) := by
  have found := natOf?_of_isNumeral numeral
  rcases isSign with rfl | rfl | ⟨rfl, zero⟩
  · obtain ⟨c, rest, rfl⟩ := List.exists_cons_of_ne_nil numeral.any
    have noMinus : c ≠ '-' :=
      ne_of_mem_of_not_mem List.mem_cons_self (numeral.not_mem (by decide))
    have noPlus : c ≠ '+' :=
      ne_of_mem_of_not_mem List.mem_cons_self (numeral.not_mem (by decide))
    simp [signed?, unsigned?, noMinus, noPlus, found, Option.filter, fits]
  · simp [signed?, unsigned?, found, Option.filter, fits]
  · simp [signed?, found, zero, Option.filter]

/-! ## A numeral and what follows it -/

/-- No digit follows. -/
def StopsDigits (rest : List Char) : Prop :=
  ∀ c ∈ rest.head?, isDigit c = false

theorem stopsDigits_nil : StopsDigits [] := by
  rintro c ⟨⟩

theorem stopsDigits_cons {c : Char} {rest : List Char} (other : isDigit c = false) :
    StopsDigits (c :: rest) := by
  simpa [StopsDigits] using other

theorem takeWhile_isDigit_append {digits rest : List Char} (run : ∀ c ∈ digits, isDigit c = true)
    (stops : StopsDigits rest) : (digits ++ rest).takeWhile isDigit = digits := by
  rw [List.takeWhile_append_of_pos run]
  cases rest with
  | nil => simp
  | cons c rest => simp [stops c rfl]

/-- Whoever drops a run of characters drops no more if none follows. -/
theorem dropWhile_append_of_stops {p : Char → Bool} {run rest : List Char}
    (all : ∀ c ∈ run, p c = true) (stops : ∀ c ∈ rest.head?, p c = false) :
    (run ++ rest).dropWhile p = rest := by
  rw [List.dropWhile_append_of_pos all]
  cases rest with
  | nil => rfl
  | cons c rest => simp [stops c rfl]

theorem dropWhile_isDigit_append {digits rest : List Char} (run : ∀ c ∈ digits, isDigit c = true)
    (stops : StopsDigits rest) : (digits ++ rest).dropWhile isDigit = rest :=
  dropWhile_append_of_stops run stops

/-- Where dropping stops, it stops at a character that is not dropped. -/
theorem head?_dropWhile_eq_false (p : Char → Bool) (cs : List Char) :
    ∀ c ∈ (cs.dropWhile p).head?, p c = false := by
  intro c first
  have := List.head?_dropWhile_not p cs
  rw [Option.mem_def.1 first] at this
  simpa using this

theorem isBlank_of_isDigit {c : Char} (digit : isDigit c = true) : isBlank c = false := by
  simp only [isDigit, decide_eq_true_eq, Char.le_def, UInt32.le_iff_toNat_le] at digit
  have lower : 48 ≤ c.toNat := digit.1
  have upper : c.toNat ≤ 57 := digit.2
  simp only [isBlank, Bool.or_eq_false_iff, Bool.and_eq_false_iff, decide_eq_false_iff_not,
    beq_eq_false_iff_ne, ne_eq]
  omega

end IncidentWatch.Text

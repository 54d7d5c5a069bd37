/-!
# Decimal numerals

Whole numbers are written without leading zeros and read back with any number of
them; an explicit sign is allowed on reading. A numeral outside the bounds that
the reader asks for is refused. The main statement is that reading the numeral
of a number gives the number (`value_decimal`).
-/

set_option autoImplicit false

namespace IncidentWatch.Text

/-- An ASCII digit. -/
def isDigit (c : Char) : Bool :=
  decide ('0' ≤ c ∧ c ≤ '9')

/-- The value of an ASCII digit. -/
def digitValue (c : Char) : Nat :=
  c.toNat - 48

/-- The ASCII digit of a value below ten. -/
def digitOf (n : Nat) : Char :=
  Char.ofNat (48 + n)

/-- The number that a run of digits denotes when `start` was read before it. -/
def valueFrom (start : Nat) (digits : List Char) : Nat :=
  digits.foldl (fun n c => 10 * n + digitValue c) start

/-- The number that a run of digits denotes. -/
def value (digits : List Char) : Nat :=
  valueFrom 0 digits

/-- The shortest numeral of a number. -/
def decimal (n : Nat) : List Char :=
  if n < 10 then [digitOf n] else decimal (n / 10) ++ [digitOf (n % 10)]
termination_by n

/-- The numeral of a number, filled up with zeros on the left to a width. -/
def padded (width n : Nat) : List Char :=
  let digits := decimal n
  List.replicate (width - digits.length) '0' ++ digits

/-- The numeral of an integer. -/
def signed (i : Int) : List Char :=
  if i < 0 then '-' :: decimal i.natAbs else decimal i.natAbs

/-- The number of a text that consists of digits, of which there must be one. -/
def natOf? (cs : List Char) : Option Nat :=
  if cs ≠ [] ∧ cs.all isDigit then some (value cs) else none

/-- An unsigned numeral, with or without a plus sign, of a number up to `bound`. -/
def unsigned? (bound : Nat) (cs : List Char) : Option Nat :=
  let digits := match cs with
    | '+' :: rest => rest
    | rest => rest
  (natOf? digits).filter (· ≤ bound)

/-- A numeral with an optional sign of a number in the word range of `bound + 1` negatives. -/
def signed? (bound : Nat) (cs : List Char) : Option Int :=
  match cs with
  | '-' :: rest => ((natOf? rest).filter (· ≤ bound + 1)).map fun n => -(n : Int)
  | rest => (unsigned? bound rest).map fun n => (n : Int)

/-- The largest signed 32-bit number. -/
def int32Max : Nat := 2147483647

/-- The largest signed 64-bit number. -/
def int64Max : Nat := 9223372036854775807

/-- The largest unsigned 64-bit number. -/
def uint64Max : Nat := 18446744073709551615

theorem digitValue_digitOf {n : Nat} (h : n < 10) : digitValue (digitOf n) = n := by
  have : n = 0 ∨ n = 1 ∨ n = 2 ∨ n = 3 ∨ n = 4 ∨ n = 5 ∨ n = 6 ∨ n = 7 ∨ n = 8 ∨ n = 9 := by
    omega
  rcases this with h | h | h | h | h | h | h | h | h | h <;> subst h <;> decide

theorem isDigit_digitOf {n : Nat} (h : n < 10) : isDigit (digitOf n) = true := by
  have : n = 0 ∨ n = 1 ∨ n = 2 ∨ n = 3 ∨ n = 4 ∨ n = 5 ∨ n = 6 ∨ n = 7 ∨ n = 8 ∨ n = 9 := by
    omega
  rcases this with h | h | h | h | h | h | h | h | h | h <;> subst h <;> decide

/-- Reading a number's numeral gives the number. -/
theorem value_decimal (n : Nat) : value (decimal n) = n := by
  induction n using Nat.strongRecOn with
  | ind n ih =>
    unfold decimal
    split
    · rename_i h
      simp [value, valueFrom, digitValue_digitOf h]
    · rename_i h
      have hlt : n / 10 < n := by omega
      have hmod : n % 10 < 10 := by omega
      have := ih _ hlt
      simp only [value, valueFrom, List.foldl_append, List.foldl_cons, List.foldl_nil] at this ⊢
      rw [this, digitValue_digitOf hmod]
      omega

end IncidentWatch.Text

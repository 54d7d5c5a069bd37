/-!
# Faults

Arithmetic on machine words and on instants is partial: a result outside the
range has no value. A fault names what went wrong, and a computation that meets
one ends there. Words are computed with in `Int` and brought back by the
functions of `Word`, which return the value exactly when it is in range
(`Word.int32_eq_ok_iff`, `Word.uint64_eq_ok_iff`).
-/

set_option autoImplicit false

namespace IncidentWatch

/-- What stops a computation short of an answer. -/
inductive Fault where
  | addOverflow
  | subtractOverflow
  | multiplyOverflow
  | instantOverflow
  | zeroPeriod
  deriving DecidableEq, Repr

/-- The text a fault is reported with. -/
def Fault.message : Fault → String
  | .addOverflow => "attempt to add with overflow"
  | .subtractOverflow => "attempt to subtract with overflow"
  | .multiplyOverflow => "attempt to multiply with overflow"
  | .instantOverflow => "`DateTime + TimeDelta` overflowed"
  | .zeroPeriod => "`period` must be non-zero."

namespace Word

/-- The signed 32-bit word of value `v`. -/
def int32 (fault : Fault) (v : Int) : Except Fault Int32 :=
  if -2147483648 ≤ v ∧ v ≤ 2147483647 then .ok (Int32.ofInt v) else .error fault

/-- The unsigned 32-bit word of value `v`. -/
def uint32 (fault : Fault) (v : Nat) : Except Fault UInt32 :=
  if v < 4294967296 then .ok (UInt32.ofNat v) else .error fault

/-- The unsigned 64-bit word of value `v`. -/
def uint64 (fault : Fault) (v : Int) : Except Fault UInt64 :=
  if 0 ≤ v ∧ v < 18446744073709551616 then .ok (UInt64.ofNat v.toNat) else .error fault

/-- A signed 32-bit word is found exactly for the values in its range. -/
theorem int32_eq_ok_iff {fault : Fault} {v : Int} {w : Int32} :
    int32 fault v = .ok w ↔ (-2147483648 ≤ v ∧ v ≤ 2147483647) ∧ Int32.ofInt v = w := by
  unfold int32
  split <;> grind

/-- A checked signed 32-bit word has the value it was made from. -/
theorem toInt_of_int32 {fault : Fault} {v : Int} {w : Int32} (h : int32 fault v = .ok w) :
    w.toInt = v := by
  obtain ⟨⟨hlow, hhigh⟩, rfl⟩ := int32_eq_ok_iff.1 h
  exact Int32.toInt_ofInt_of_le (by omega) (by omega)

/-- An unsigned 64-bit word is found exactly for the values in its range. -/
theorem uint64_eq_ok_iff {fault : Fault} {v : Int} {w : UInt64} :
    uint64 fault v = .ok w ↔ (0 ≤ v ∧ v < 18446744073709551616) ∧ UInt64.ofNat v.toNat = w := by
  unfold uint64
  split <;> grind

/-- A checked unsigned 64-bit word has the value it was made from. -/
theorem toNat_of_uint64 {fault : Fault} {v : Int} {w : UInt64} (h : uint64 fault v = .ok w) :
    (w.toNat : Int) = v := by
  obtain ⟨⟨hlow, hhigh⟩, rfl⟩ := uint64_eq_ok_iff.1 h
  rw [UInt64.toNat_ofNat']
  omega

end Word

end IncidentWatch

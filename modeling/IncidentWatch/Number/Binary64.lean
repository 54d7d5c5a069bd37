import IncidentWatch.Text.Numeral

/-!
# Binary floating point with 53 digits

A finite non-negative number of the double format is `mantissa * 2 ^ exponent`
with a mantissa below `2 ^ 53` and an exponent of at least `-1074`. Ratios of
natural numbers are rounded to the nearest such number, a tie to the even
mantissa; products and quotients are the exact ones, rounded.

The shortest numeral of a number is the one with the fewest digits among those
that round to it, and the nearest to it of these. It is found on the decimal
grids of one digit, two digits and so on: the first grid with a point in the
interval of the reals that round to the number has the answer, and only the two
points next to the number need to be tried.
-/

set_option autoImplicit false

namespace IncidentWatch

/-- A finite non-negative number of the double format. -/
structure Binary64 where
  mantissa : Nat
  exponent : Int
  deriving DecidableEq, Repr

/-- A ratio of natural numbers; the denominator is not zero. -/
structure Ratio where
  num : Nat
  den : Nat

namespace Ratio

/-- The value `n * base ^ e` for an integer exponent. -/
def scaled (n base : Nat) (e : Int) : Ratio :=
  if 0 ≤ e then ⟨n * Nat.pow base e.toNat, 1⟩ else ⟨n, Nat.pow base (-e).toNat⟩

def mul (a b : Ratio) : Ratio := ⟨a.num * b.num, a.den * b.den⟩

def div (a b : Ratio) : Ratio := ⟨a.num * b.den, a.den * b.num⟩

def le (a b : Ratio) : Bool := a.num * b.den ≤ b.num * a.den

def lt (a b : Ratio) : Bool := a.num * b.den < b.num * a.den

/-- The nearest natural number, a tie going to the even one. -/
def nearest (a : Ratio) : Nat :=
  let q := a.num / a.den
  let twice := 2 * (a.num % a.den)
  if twice < a.den then q
  else if a.den < twice then q + 1
  else if q % 2 = 0 then q else q + 1

end Ratio

namespace Binary64

/-- The exact value. -/
def toRatio (x : Binary64) : Ratio :=
  Ratio.scaled x.mantissa 2 x.exponent

def isZero (x : Binary64) : Bool := x.mantissa == 0

/-- The number nearest to a ratio, or nothing when that is beyond the largest number. -/
def ofRatio? (r : Ratio) : Option Binary64 :=
  if r.num = 0 then some ⟨0, -1074⟩
  else
    let guess : Int := (Nat.log2 r.num : Int) - (Nat.log2 r.den : Int) - 52
    let low := Ratio.div r (Ratio.scaled 1 2 guess)
    let fitted := if low.lt ⟨Nat.pow 2 52, 1⟩ then guess - 1 else guess
    let exponent := max fitted (-1074)
    let mantissa := (Ratio.div r (Ratio.scaled 1 2 exponent)).nearest
    let carried : Binary64 :=
      if mantissa = Nat.pow 2 53 then ⟨Nat.pow 2 52, exponent + 1⟩ else ⟨mantissa, exponent⟩
    if carried.exponent ≤ 971 then some carried else none

/-- The number nearest to a natural number. -/
def ofNat? (n : Nat) : Option Binary64 := ofRatio? ⟨n, 1⟩

/-- The product, rounded. -/
def mul? (x y : Binary64) : Option Binary64 := ofRatio? (x.toRatio.mul y.toRatio)

/-- The quotient, rounded. -/
def div? (x y : Binary64) : Option Binary64 := ofRatio? (x.toRatio.div y.toRatio)

/-- The reals that round to a number: the two ends, which belong to it when the mantissa is even. -/
structure Interval where
  low : Ratio
  high : Ratio
  closed : Bool

def Interval.contains (i : Interval) (r : Ratio) : Bool :=
  if i.closed then i.low.le r && r.le i.high else i.low.lt r && r.lt i.high

/-- The interval of the reals that round to a positive number. -/
def interval (x : Binary64) : Interval where
  low :=
    if x.mantissa = Nat.pow 2 52 ∧ -1074 < x.exponent then
      Ratio.scaled (4 * x.mantissa - 1) 2 (x.exponent - 2)
    else Ratio.scaled (2 * x.mantissa - 1) 2 (x.exponent - 1)
  high := Ratio.scaled (2 * x.mantissa + 1) 2 (x.exponent - 1)
  closed := x.mantissa % 2 == 0

/-- A decimal numeral `digits * 10 ^ exponent`. -/
structure Decimal where
  digits : Nat
  exponent : Int
  deriving DecidableEq, Repr

def Decimal.toRatio (d : Decimal) : Ratio :=
  Ratio.scaled d.digits 10 d.exponent

/-- The least exponent `e` with the value below `10 ^ e`. -/
def magnitude (x : Binary64) : Int :=
  let r := x.toRatio
  let estimate : Int := ((Nat.log2 r.num : Int) - (Nat.log2 r.den : Int)) * 30103 / 100000
  let candidates := [estimate - 1, estimate, estimate + 1, estimate + 2]
  (candidates.find? fun e => r.lt (Ratio.scaled 1 10 e)).getD (estimate + 3)

/-- The point of the grid `10 ^ exponent` nearest to the number, if it rounds to the number. -/
def onGrid? (x : Binary64) (exponent : Int) : Option Decimal :=
  let r := x.toRatio
  let steps := r.div (Ratio.scaled 1 10 exponent)
  let below := steps.num / steps.den
  let inside (n : Nat) : Bool := x.interval.contains (Decimal.toRatio ⟨n, exponent⟩)
  let nearer := steps.nearest
  let other := if nearer = below then below + 1 else below
  if inside nearer then some ⟨nearer, exponent⟩
  else if inside other then some ⟨other, exponent⟩
  else none

/-- The shortest numeral that rounds to a positive number. -/
def shortest (x : Binary64) : Decimal :=
  let top := x.magnitude
  ((List.range 17).findSome? fun (k : Nat) => x.onGrid? (top - 1 - (k : Int))).getD
    ⟨x.mantissa, 0⟩

/-- A numeral without zeros at the end of its digits; `fuel` bounds their number. -/
def Decimal.stripped : Nat → Decimal → Decimal
  | 0, d => d
  | fuel + 1, d =>
    if d.digits ≠ 0 ∧ d.digits % 10 = 0 then stripped fuel ⟨d.digits / 10, d.exponent + 1⟩ else d

/-- Between a hundred-thousandth and ten thousand million million the point is written in its
place, with at least one digit on each side; outside, after the first digit, with an exponent of
at least two digits and its sign. -/
def render (x : Binary64) : List Char :=
  if x.isZero then ['0', '.', '0']
  else
    let d := Decimal.stripped 20 x.shortest
    let digits := Text.decimal d.digits
    let point : Int := digits.length + d.exponent
    if -5 < point ∧ point ≤ 16 then
      if 0 ≤ d.exponent then digits ++ List.replicate d.exponent.toNat '0' ++ ['.', '0']
      else if 0 < point then
        digits.take point.toNat ++ '.' :: digits.drop point.toNat
      else ['0', '.'] ++ List.replicate (-point).toNat '0' ++ digits
    else
      let e := point - 1
      let fraction := digits.drop 1
      digits.take 1 ++ (if fraction = [] then [] else '.' :: fraction)
        ++ ['e', if e < 0 then '-' else '+'] ++ Text.padded 2 e.natAbs

end Binary64

end IncidentWatch

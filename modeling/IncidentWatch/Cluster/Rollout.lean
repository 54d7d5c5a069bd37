import IncidentWatch.Fault
import IncidentWatch.Text.Blank
import IncidentWatch.Text.Numeral

/-!
# Rollouts

A deployment wants a number of replicas and tolerates that some are unavailable
while it is rolled out. The number tolerated is given as a count or as a
percentage of the replicas, rounded toward zero; without it a quarter is
tolerated, and nothing where replicas are not replaced one by one. A deployment
is failing when fewer replicas are ready than it wants less what it tolerates.

All numbers are signed 32-bit words, and products and differences outside the
words are faults.
-/

set_option autoImplicit false

namespace IncidentWatch

open Text

/-- How many replicas a deployment wants, has and may lack. -/
structure RolloutHealth where
  desired : Int32
  ready : Int32
  maxUnavailable : Int32
  deriving DecidableEq, Repr

/-- Whether fewer replicas are ready than the rollout tolerates. -/
def RolloutHealth.isFailing (h : RolloutHealth) : Except Fault Bool := do
  let needed ← Word.int32 .subtractOverflow (h.desired.toInt - h.maxUnavailable.toInt)
  return h.ready < needed

/-- A number, or a text that should be a number or a percentage. -/
inductive Quota where
  | count (n : Int32)
  | text (s : String)
  deriving DecidableEq, Repr

namespace Quota

/-- A percentage of a total, rounded toward zero. -/
def percentOf (total percent : Int32) : Except Fault Int32 := do
  let product ← Word.int32 .multiplyOverflow (total.toInt * percent.toInt)
  return Int32.ofInt (product.toInt.tdiv 100)

/-- The number of a text with blanks around it. -/
def number? (cs : List Char) : Option Int32 :=
  (signed? int32Max (trim cs)).map Int32.ofInt

/-- The number that a quota allows out of a total; what cannot be read allows none. -/
def scaled (q : Quota) (total : Int32) : Except Fault Int32 :=
  match q with
  | count n => .ok n
  | text s =>
    match s.toList.reverse with
    | '%' :: before =>
      match number? before.reverse with
      | some percent => percentOf total percent
      | none => .ok 0
    | _ => .ok ((number? s.toList).getD 0)

end Quota

/-- How a deployment replaces its replicas. -/
structure Strategy where
  type : Option String
  maxUnavailable : Option Quota
  deriving DecidableEq, Repr

/-- Whether replicas are replaced one by one, as they are when nothing is said. -/
def Strategy.isRolling (s : Strategy) : Bool :=
  s.type.getD "RollingUpdate" = "RollingUpdate"

/-- The percentage of replicas that may be unavailable when nothing is said. -/
def defaultUnavailablePercent : Int32 := 25

/-- What a deployment says of its replicas. -/
structure Rollout where
  replicas : Option Int32
  strategy : Option Strategy
  ready : Option Int32
  deriving DecidableEq, Repr

namespace Rollout

/-- How many replicas are wanted; one when nothing is said. -/
def desired (r : Rollout) : Int32 :=
  r.replicas.getD 1

/-- How many replicas may be unavailable. -/
def maxUnavailable (r : Rollout) : Except Fault Int32 :=
  match r.strategy.filter (·.isRolling) with
  | none => .ok 0
  | some s =>
    match s.maxUnavailable with
    | some quota => quota.scaled r.desired
    | none => Quota.percentOf r.desired defaultUnavailablePercent

/-- The health of a rollout. -/
def health (r : Rollout) : Except Fault RolloutHealth := do
  return ⟨r.desired, r.ready.getD 0, ← r.maxUnavailable⟩

end Rollout

end IncidentWatch

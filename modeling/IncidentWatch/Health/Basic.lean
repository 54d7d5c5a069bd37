import IncidentWatch.ByName
import IncidentWatch.Fault
import IncidentWatch.Instant.Basic

/-!
# Health of the components

Each component reports how its work ended. A success clears its streak of
failures, a failure lengthens it: a component that failed is degraded, and after
three failures in a row it is unhealthy. The whole is as bad as its worst
component, and it is ready once it is wired and no component is unhealthy.

Components are listed in the order of their names.
-/

set_option autoImplicit false

namespace IncidentWatch

/-- How well a component works. -/
inductive ComponentStatus where
  | healthy
  | degraded
  | unhealthy
  deriving DecidableEq, Repr

namespace ComponentStatus

/-- The worse of two. -/
def worse : ComponentStatus → ComponentStatus → ComponentStatus
  | .unhealthy, _ => .unhealthy
  | _, .unhealthy => .unhealthy
  | .degraded, _ => .degraded
  | _, .degraded => .degraded
  | .healthy, .healthy => .healthy

/-- The status after a number of failures in a row. -/
def ofStreak (failures : Nat) : ComponentStatus :=
  if failures = 0 then .healthy else if failures < 3 then .degraded else .unhealthy

end ComponentStatus

/-- What is known of a component. -/
structure ComponentHealth where
  status : ComponentStatus
  message : Option String
  consecutiveFailures : UInt32
  updatedAt : Instant
  deriving DecidableEq

namespace ComponentHealth

/-- A component without a failure. -/
def healthy (now : Instant) : ComponentHealth :=
  ⟨.healthy, none, 0, now⟩

/-- A component after a further failure. -/
def afterFailure (c : ComponentHealth) (text : String) (now : Instant) :
    Except Fault ComponentHealth := do
  let streak ← Word.uint32 .addOverflow (c.consecutiveFailures.toNat + 1)
  return ⟨.ofStreak streak.toNat, some text, streak, now⟩

end ComponentHealth

/-- The components that report. -/
inductive Component where
  | detector
  | resolver
  | repository
  | cluster
  deriving DecidableEq, Repr

namespace Component

def name : Component → String
  | .detector => "detector"
  | .resolver => "resolver"
  | .repository => "repository"
  | .cluster => "cluster"

def all : List Component := [.detector, .resolver, .repository, .cluster]

end Component

/-- What is known of all components. -/
structure HealthRegistry where
  components : ByName ComponentHealth := .empty
  wired : Bool := false

namespace HealthRegistry

/-- What is known of a component. -/
def get? (r : HealthRegistry) (name : String) : Option ComponentHealth :=
  r.components.get? name

def set (r : HealthRegistry) (name : String) (c : ComponentHealth) : HealthRegistry :=
  { r with components := r.components.insert name c }

/-- A component's work succeeded. -/
def succeed (r : HealthRegistry) (name : String) (now : Instant) : HealthRegistry :=
  r.set name (.healthy now)

/-- A component's work failed. -/
def fail (r : HealthRegistry) (name text : String) (now : Instant) :
    Except Fault HealthRegistry := do
  let known := (r.get? name).getD (.healthy now)
  return r.set name (← known.afterFailure text now)

/-- Makes all components of the engine healthy. -/
def registerAll (r : HealthRegistry) (now : Instant) : HealthRegistry :=
  Component.all.foldl (fun r c => r.succeed c.name now) r

/-- The status of the worst component. -/
def status (r : HealthRegistry) : ComponentStatus :=
  r.components.entries.foldl (fun worst entry => worst.worse entry.2.status) .healthy

/-- The components that are unhealthy. -/
def unhealthy (r : HealthRegistry) : List String :=
  (r.components.entries.filter fun entry => entry.2.status = .unhealthy).map (·.1)

end HealthRegistry

/-- What is told of the health of all. -/
structure HealthResponse where
  status : ComponentStatus
  components : ByName ComponentHealth

/-- Whether requests can be taken, and if not, why. -/
structure ReadinessResponse where
  ready : Bool
  reason : Option String
  deriving DecidableEq, Repr

namespace HealthRegistry

def response (r : HealthRegistry) : HealthResponse :=
  ⟨r.status, r.components⟩

def readiness (r : HealthRegistry) : ReadinessResponse :=
  if !r.wired then ⟨false, some "Engine not yet wired"⟩
  else if r.unhealthy.isEmpty then ⟨true, none⟩
  else ⟨false, some ("Unhealthy: " ++ ", ".intercalate r.unhealthy)⟩

end HealthRegistry

end IncidentWatch

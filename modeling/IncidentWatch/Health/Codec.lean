import IncidentWatch.Health.Basic
import IncidentWatch.Event.Codec

/-!
# Health in JSON

What has no message, or no reason, leaves that member out.
-/

set_option autoImplicit false

namespace IncidentWatch

open Decode

namespace ComponentStatus

def named : List (String × ComponentStatus) :=
  [("healthy", .healthy), ("degraded", .degraded), ("unhealthy", .unhealthy)]

def name : ComponentStatus → String
  | .healthy => "healthy"
  | .degraded => "degraded"
  | .unhealthy => "unhealthy"

def encode (s : ComponentStatus) : Json := .str s.name

def decode : Decoder ComponentStatus := constant named

end ComponentStatus

/-- The member of an optional text, if it is there. -/
def Json.optionalText (name : String) (text : Option String) : List (String × Json) :=
  (text.map fun s => (name, Json.str s)).toList

namespace ComponentHealth

/-- The members besides the time of the last report. -/
def standing (c : ComponentHealth) : List (String × Json) :=
  [("status", c.status.encode)] ++ Json.optionalText "message" c.message
    ++ [("consecutive_failures", .int c.consecutiveFailures.toNat)]

def encode (c : ComponentHealth) : Json :=
  .object (c.standing ++ [("updated_at", c.updatedAt.encode)])

def fields : Fields ComponentHealth :=
  ((Fields.none ComponentHealth.mk).required "status" ComponentStatus.decode
    |>.nullable "message" string
    |>.required "consecutive_failures" uint32
    |>.required "updated_at" instant)

def decode : Decoder ComponentHealth := fields.record "ComponentHealth"

end ComponentHealth

namespace HealthResponse

def encode (h : HealthResponse) : Json :=
  .object [("status", h.status.encode),
    ("components", .object (h.components.entries.map fun (name, c) => (name, c.encode)))]

def fields : Fields HealthResponse :=
  ((Fields.none HealthResponse.mk).required "status" ComponentStatus.decode
    |>.required "components" (byName ComponentHealth.decode))

def decode : Decoder HealthResponse := fields.record "HealthResponse"

end HealthResponse

namespace ReadinessResponse

def encode (r : ReadinessResponse) : Json :=
  .object ([("ready", .bool r.ready)] ++ Json.optionalText "reason" r.reason)

def fields : Fields ReadinessResponse :=
  ((Fields.none ReadinessResponse.mk).required "ready" bool
    |>.nullable "reason" string)

def decode : Decoder ReadinessResponse := fields.record "ReadinessResponse"

end ReadinessResponse

end IncidentWatch

import IncidentWatch.Event.Basic
import IncidentWatch.Owner.Codec
import IncidentWatch.Instant.Printer

/-!
# Events in JSON

An event spells its fields in camel case. The message, the exit code and what the
event knows of its owner and release may be left out.
-/

set_option autoImplicit false

namespace IncidentWatch

open Decode

/-- An instant in JSON. -/
def Instant.encode (t : Instant) : Json := .str t.render

/-- Null, or the value of an option. -/
def Json.ofOption {α : Type} (encode : α → Json) : Option α → Json
  | none => .null
  | some a => encode a

namespace Bucket

def named : List (String × Bucket) :=
  [("critical", .critical), ("high", .high), ("low", .low)]

def name : Bucket → String
  | .critical => "critical"
  | .high => "high"
  | .low => "low"

def encode (b : Bucket) : Json := .str b.name

def decode : Decoder Bucket := constant named

end Bucket

namespace EventSource

def named : List (String × EventSource) :=
  [("pod", .pod), ("event", .event)]

def name : EventSource → String
  | .pod => "pod"
  | .event => "event"

def encode (s : EventSource) : Json := .str s.name

def decode : Decoder EventSource := constant named

end EventSource

namespace Event

def encode (e : Event) : Json :=
  .object [("podName", .str e.podName), ("podNamespace", .str e.podNamespace),
    ("source", e.source.encode), ("reason", .str e.reason), ("message", .str e.message),
    ("exitCode", .ofOption (fun code => .int code.toInt) e.exitCode),
    ("severity", e.severity.encode), ("timestamp", e.timestamp.encode),
    ("owner", .ofOption OwnerHint.encode e.owner), ("chartName", .ofOption .str e.chartName),
    ("releaseName", .ofOption .str e.releaseName)]

def fields : Fields Event :=
  ((Fields.none Event.mk).required "podName" string
    |>.required "podNamespace" string
    |>.required "source" EventSource.decode
    |>.required "reason" string
    |>.defaulted "message" string ""
    |>.defaulted "exitCode" (option int32) none
    |>.required "severity" Bucket.decode
    |>.required "timestamp" instant
    |>.defaulted "owner" (option OwnerHint.decode) none
    |>.defaulted "chartName" (option string) none
    |>.defaulted "releaseName" (option string) none)

def decode : Decoder Event := fields.record "NormalizedEvent"

end Event

end IncidentWatch

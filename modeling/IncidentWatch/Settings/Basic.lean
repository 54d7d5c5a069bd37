import IncidentWatch.Store.Basic

/-!
# Settings

The settings of the engine say which rules it reads, how long it waits before it
takes an incident for settled, how often it repeats an alert and how long a
question to the cluster may take. The settings of the agent around it name the
node and the port, and set the rhythm of the sweeps.
-/

set_option autoImplicit false

namespace IncidentWatch

/-- The version of the rules when no other is known. -/
def defaultVersion : String := "1.28"

/-- The settings of the engine; the limit of a query is in milliseconds. -/
structure EngineSettings where
  version : String := defaultVersion
  bufferWindow : Span := .ofSeconds 360
  settleAfter : Span := .ofSeconds 82800
  retryThreshold : UInt32 := 3
  criticalRealertHours : Int := 1
  normalRealertHours : Int := 24
  queryLimit : Nat := 10000
  pageSize : UInt64 := Pagination.defaultSize
  deriving DecidableEq, Repr

namespace EngineSettings

/-- The hours after which an alert of a severity is repeated. -/
def realertHours (s : EngineSettings) : Severity → Int
  | .critical => s.criticalRealertHours
  | .normal => s.normalRealertHours

/-- The settings as they are shown, with spans and the limit of a query in whole seconds. -/
def encode (s : EngineSettings) : Json :=
  .object [("cluster_version", .str s.version), ("buffer_window_secs", .int s.bufferWindow),
    ("settle_after_secs", .int s.settleAfter),
    ("resolved_retry_threshold", .int s.retryThreshold.toNat),
    ("critical_realert_hours", .int s.criticalRealertHours),
    ("normal_realert_hours", .int s.normalRealertHours),
    ("cluster_query_timeout_secs", .int (s.queryLimit / 1000)),
    ("list_page_size", .int s.pageSize.toNat)]

end EngineSettings

/-- The settings of the agent; times are in seconds. -/
structure AgentSettings where
  nodeName : String
  apiPort : UInt16 := 8080
  version : Option String := none
  resolveInterval : UInt64 := 60
  sweepLimit : UInt64 := 45
  queryLimit : UInt64 := 10
  deriving DecidableEq, Repr

/-- The engine's settings: the version is the agent's, or else the one found in the cluster. -/
def AgentSettings.engine (s : AgentSettings) (found : Option String) : EngineSettings :=
  { version := (s.version.or found).getD defaultVersion
    queryLimit := s.queryLimit.toNat * 1000 }

end IncidentWatch

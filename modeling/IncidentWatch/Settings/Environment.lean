import IncidentWatch.Settings.Basic

/-!
# Settings from the environment

The agent's settings are variables of the environment whose names begin with a
common word; the case of the names does not count, and of names that differ in
case only the last one in the order of the names counts. A number is written in
digits, with or without a plus sign, or as a word for yes or no. If any setting
cannot be read, all of them have their defaults.
-/

set_option autoImplicit false

namespace IncidentWatch

open Text

/-- The variables of an environment. -/
abbrev Environment := ByName String

namespace Environment

/-- The small letter of an ASCII capital. -/
def small (c : Char) : Char :=
  if 'A' ≤ c ∧ c ≤ 'Z' then Char.ofNat (c.toNat + 32) else c

/-- A text in small ASCII letters. -/
def lowercase (s : String) : String :=
  String.ofList (s.toList.map small)

/-- The beginning of the names of the settings. -/
def settingStart : String := "incident_"

/-- The setting of a name. -/
def setting? (env : Environment) (name : String) : Option String :=
  (env.entries.filter fun entry => lowercase entry.1 = settingStart ++ name).getLast?.map (·.2)

/-- The number that a value writes, if it is not above `bound`. -/
def number? (bound : Nat) (value : String) : Option Nat :=
  let word := lowercase value
  if word = "true" ∨ word = "on" ∨ word = "yes" then some 1
  else if word = "false" ∨ word = "off" ∨ word = "no" then some 0
  else (unsigned? uint64Max value.toList).filter (· ≤ bound)

/-- The number of a setting, or its default where it is not set. -/
def numberSetting? (env : Environment) (bound : Nat) (name : String) (default : Nat) : Option Nat :=
  match env.setting? name with
  | none => some default
  | some value => number? bound value

/-- The name of the node when no setting names it. -/
def hostName (env : Environment) : String :=
  (env.get? "NODE_NAME").getD "unknown"

/-- The settings that the environment sets, if all of them can be read. -/
def readSettings? (env : Environment) : Option AgentSettings := do
  let port ← env.numberSetting? 65535 "api_port" 8080
  let interval ← env.numberSetting? uint64Max "resolve_interval_secs" 60
  let sweepLimit ← env.numberSetting? uint64Max "sweep_timeout_secs" 45
  let queryLimit ← env.numberSetting? uint64Max "cluster_query_timeout_secs" 10
  return { nodeName := (env.setting? "node_name").getD env.hostName
           apiPort := UInt16.ofNat port
           version := env.setting? "cluster_version"
           resolveInterval := UInt64.ofNat interval
           sweepLimit := UInt64.ofNat sweepLimit
           queryLimit := UInt64.ofNat queryLimit }

/-- The agent's settings. -/
def agentSettings (env : Environment) : AgentSettings :=
  (env.readSettings?).getD { nodeName := env.hostName }

end Environment

namespace AgentSettings

/-- The agent's settings as they are shown, with those of the engine. -/
def encode (s : AgentSettings) (found : Option String) : Json :=
  .object [("node_name", .str s.nodeName), ("api_port", .int s.apiPort.toNat),
    ("cluster_version", .ofOption .str s.version),
    ("resolve_interval_secs", .int s.resolveInterval.toNat),
    ("sweep_timeout_secs", .int s.sweepLimit.toNat),
    ("cluster_query_timeout_secs", .int s.queryLimit.toNat),
    ("engine", (s.engine found).encode)]

end AgentSettings

end IncidentWatch

import IncidentWatch.Rule.Basic
import IncidentWatch.Rule.Version

/-!
# The catalogue of causes

The causes that the engine knows, and the declarations that recognise them. From
minor version 30 on, registries report that they limit the rate of pulls, so the
later tables have two rules more, between those for refused pulls and the one
for any other failed pull.
-/

set_option autoImplicit false

namespace IncidentWatch.Catalogue

/-- The versions with a table. -/
def supportedVersions : List String :=
  ["1.27", "1.28", "1.29", "1.30", "1.31"]

/-- The first minor version whose registries report rate limits. -/
def rateLimitSince : Nat := 30

def outOfMemory : String := "The application ran out of memory"
def crashLooping : String := "The application is crash looping"
def exitedWithError : String := "The application exited with an error"
def imageMissing : String := "The container image does not exist"
def imageUnauthorized : String := "The image registry rejected the credentials"
def imageRateLimited : String := "The image registry is rate limiting pulls"
def imagePullFailed : String := "The container image could not be pulled"
def secretMissing : String := "A referenced secret is missing"
def configMapMissing : String := "A referenced config map is missing"
def configInvalid : String := "The container configuration is invalid"
def livenessFailing : String := "The liveness probe is failing"
def readinessFailing : String := "The readiness probe is failing"
def startupFailing : String := "The startup probe is failing"
def insufficientResources : String := "The cluster does not have enough resources"
def unschedulable : String := "The pod could not be scheduled"
def volumeMountFailed : String := "A volume could not be mounted"
def evicted : String := "The pod was evicted"
def livenessRestart : String := "The container was restarted by its liveness probe"
def sandboxFailed : String := "The pod sandbox could not be created"

/-- A rule on the status of containers; their causes are primary. -/
def podRule (reason pattern summary : String) (detail : DetailStyle) : RuleSpec :=
  ⟨.pod, reason, pattern, summary, detail, true⟩

/-- A rule on event objects, which tell their message. -/
def eventRule (reason pattern summary : String) (primary : Bool) : RuleSpec :=
  ⟨.event, reason, pattern, summary, .message, primary⟩

def missingImage : String := "(?i)not found|manifest unknown|does not exist"
def unauthorized : String := "(?i)unauthorized|denied|authentication required"
def rateLimited : String := "(?i)toomanyrequests|rate limit"

/-- The rules before those on rate limits. -/
def head : List RuleSpec :=
  [podRule "OOMKilled" ".*" outOfMemory .memory,
    podRule "CrashLoopBackOff" ".*" crashLooping .message,
    podRule "Error" ".*" exitedWithError .exit,
    podRule "ErrImagePull" missingImage imageMissing .message,
    podRule "ImagePullBackOff" missingImage imageMissing .message,
    podRule "ErrImagePull" unauthorized imageUnauthorized .message,
    podRule "ImagePullBackOff" unauthorized imageUnauthorized .message]

/-- The rules on rate limits. -/
def rateLimits : List RuleSpec :=
  [podRule "ErrImagePull" rateLimited imageRateLimited .message,
    podRule "ImagePullBackOff" rateLimited imageRateLimited .message]

/-- The rules after those on rate limits. -/
def tail : List RuleSpec :=
  [podRule "ErrImagePull" ".*" imagePullFailed .message,
    podRule "ImagePullBackOff" ".*" imagePullFailed .message,
    podRule "CreateContainerConfigError" "(?i)secret .* not found" secretMissing .message,
    podRule "CreateContainerConfigError" "(?i)configmap .* not found" configMapMissing .message,
    podRule "CreateContainerConfigError" ".*" configInvalid .message,
    eventRule "BackOff" "^Back-off restarting failed container" crashLooping true,
    eventRule "BackOff" "^Back-off pulling image" imagePullFailed true,
    eventRule "Unhealthy" "^Liveness probe failed" livenessFailing true,
    eventRule "Unhealthy" "^Readiness probe failed" readinessFailing false,
    eventRule "Unhealthy" "^Startup probe failed" startupFailing true,
    eventRule "FailedScheduling" "Insufficient (cpu|memory)" insufficientResources true,
    eventRule "FailedScheduling" ".*" unschedulable true,
    eventRule "FailedMount" ".*" volumeMountFailed true,
    eventRule "FailedAttachVolume" ".*" volumeMountFailed true,
    eventRule "Evicted" ".*" evicted true,
    eventRule "Killing" "(?i)failed liveness probe" livenessRestart false,
    eventRule "FailedCreatePodSandBox" ".*" sandboxFailed false]

/-- The declarations for a version, in order. -/
def specs (version : String) : List RuleSpec :=
  head ++ (if rateLimitSince ≤ Version.minorNumber version then rateLimits else []) ++ tail

end IncidentWatch.Catalogue

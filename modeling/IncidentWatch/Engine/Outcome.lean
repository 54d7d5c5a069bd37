import IncidentWatch.Store.Basic

/-!
# Outcomes of the engine

A batch of events is skipped for one of four reasons, or saved: it creates an
incident or is merged into one. A sweep over the active incidents counts what it
did. Work that fails names the collaborator that failed.
-/

set_option autoImplicit false

namespace IncidentWatch

/-- Why a batch changed no incident. -/
inductive SkipReason where
  | allLowSeverity
  | missingPod
  | ownerUnresolved
  | unclassified
  deriving DecidableEq, Repr

namespace SkipReason

def name : SkipReason → String
  | .allLowSeverity => "all_low_severity"
  | .missingPod => "missing_pod"
  | .ownerUnresolved => "owner_unresolved"
  | .unclassified => "unclassified"

/-- The reasons in the order in which a batch is checked for them. -/
def all : List SkipReason :=
  [.allLowSeverity, .missingPod, .ownerUnresolved, .unclassified]

end SkipReason

/-- What saving a candidate did. -/
inductive SaveOutcome where
  | created (id : String)
  | merged (id : String) (promoted : Bool)
  deriving DecidableEq, Repr

/-- What became of a batch. -/
inductive BatchOutcome where
  | skipped (reason : SkipReason)
  | created (id : String)
  | merged (id : String)
  deriving DecidableEq, Repr

/-- A saved batch is created or merged as its candidate was. -/
def BatchOutcome.ofSave : SaveOutcome → BatchOutcome
  | .created id => .created id
  | .merged id _ => .merged id

/-- The two notifications that an incident can cause. -/
inductive AlertKind where
  | opened
  | resolved
  deriving DecidableEq, Repr

def AlertKind.name : AlertKind → String
  | .opened => "new"
  | .resolved => "resolved"

/-- What a sweep counts. -/
structure SweepReport where
  examined : Nat := 0
  resolved : Nat := 0
  alertsSent : Nat := 0
  alertFailures : Nat := 0
  skipped : Nat := 0
  deriving DecidableEq, Repr

/-- Why a question to the cluster has no answer. -/
inductive QueryError where
  | failed (text : String)
  | timedOut (question : String)
  deriving DecidableEq, Repr

def QueryError.message : QueryError → String
  | .failed text => "cluster query: " ++ text
  | .timedOut question => question ++ " timed out"

/-- Why the engine did not finish a piece of work. -/
inductive EngineError where
  | persistence (error : StoreError)
  | query (error : QueryError)
  | delivery (text : String)
  deriving DecidableEq, Repr

def EngineError.message : EngineError → String
  | .persistence error => "persistence: " ++ error.message
  | .query error => error.message
  | .delivery text => "notify: " ++ text

end IncidentWatch

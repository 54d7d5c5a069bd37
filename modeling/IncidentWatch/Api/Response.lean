import IncidentWatch.Engine.Outcome
import IncidentWatch.Health.Codec

/-!
# Answers to requests

An answer has a status and, where the caller can use it, a body. The answer to a
batch tells its outcome, with the incident or with the reason for skipping it.
-/

set_option autoImplicit false

namespace IncidentWatch

open Decode

/-- What is told of a batch. -/
structure DetectResponse where
  outcome : String
  incidentId : Option String
  reason : Option String
  deriving DecidableEq, Repr

namespace DetectResponse

def ofOutcome : BatchOutcome → DetectResponse
  | .created id => ⟨"created", some id, none⟩
  | .merged id => ⟨"merged", some id, none⟩
  | .skipped reason => ⟨"skipped", none, some reason.name⟩

def encode (r : DetectResponse) : Json :=
  .object ([("outcome", .str r.outcome)] ++ Json.optionalText "incidentId" r.incidentId
    ++ Json.optionalText "reason" r.reason)

def fields : Fields DetectResponse :=
  ((Fields.none DetectResponse.mk).required "outcome" string
    |>.nullable "incidentId" string
    |>.nullable "reason" string)

def decode : Decoder DetectResponse := fields.record "DetectResponse"

end DetectResponse

namespace Api

/-- What an answer carries. -/
inductive Body where
  | nothing
  | json (j : Json)
  | metrics

/-- An answer. A body can be withheld: then it is only announced. -/
structure Response where
  status : Nat
  body : Body
  isWithheld : Bool := false

/-- An answer without a body. -/
def Response.bare (status : Nat) : Response := { status, body := .nothing }

/-- An answer with a body. -/
def Response.json (status : Nat) (content : Json) : Response :=
  { status, body := .json content }

/-- An answer that tells an error. -/
def Response.error (status : Nat) (text : String) : Response :=
  .json status (.object [("error", .str text)])

/-- The type of the text that metrics are exposed in. -/
def metricsType : String := "text/plain; charset=utf-8"

end Api

end IncidentWatch

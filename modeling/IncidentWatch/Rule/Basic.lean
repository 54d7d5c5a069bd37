import IncidentWatch.Event.Basic
import IncidentWatch.Pattern.Parser
import IncidentWatch.Text.Quoted

/-!
# Rules

A rule recognises events of one source and reason whose message has a part that
matches a pattern, and says what they mean: the summary of the cause, how to tell
the detail, and whether the cause is a primary one. In a table the first rule
that recognises an event decides.
-/

set_option autoImplicit false

namespace IncidentWatch

/-- How the detail of a recognised event is told. -/
inductive DetailStyle where
  | memory
  | exit
  | message
  deriving DecidableEq, Repr

/-- The exit code of a container that was killed. -/
def killedExitCode : Int32 := 137

/-- The detail of an event. -/
def DetailStyle.tell (style : DetailStyle) (e : Event) : String :=
  match style with
  | .memory =>
    "A container in pod " ++ e.podTitle
      ++ " was killed after exceeding its memory limit (exit code "
      ++ toString (e.exitCode.getD killedExitCode).toInt ++ ")"
  | .exit =>
    match e.exitCode with
    | some code =>
      "A container in pod " ++ e.podTitle ++ " terminated with exit code " ++ toString code.toInt
    | none => "A container in pod " ++ e.podTitle ++ " terminated with an error"
  | .message =>
    if e.message = "" then "Pod " ++ e.podTitle ++ " reported " ++ e.reason
    else "Pod " ++ e.podTitle ++ ": " ++ e.message

/-- A rule as it is declared, with its pattern in writing. -/
structure RuleSpec where
  source : EventSource
  reason : String
  pattern : String
  summary : String
  detail : DetailStyle
  primary : Bool
  deriving DecidableEq, Repr

/-- A rule whose pattern was read. -/
structure Rule where
  spec : RuleSpec
  message : Pattern
  reads : Pattern.parse? spec.pattern = some message

/-- What a recognised event means. -/
structure Classification where
  summary : String
  detail : String
  primary : Bool
  deriving DecidableEq, Repr

namespace Rule

/-- The rule of a declaration whose pattern can be read. -/
def ofSpec? (spec : RuleSpec) : Option Rule :=
  match h : Pattern.parse? spec.pattern with
  | some message => some ⟨spec, message, h⟩
  | none => none

/-- Whether a rule recognises an event. -/
def recognizes (r : Rule) (e : Event) : Bool :=
  r.spec.source = e.source && r.spec.reason = e.reason && r.message.occursIn e.message

/-- What an event means by a rule. -/
def meaning (r : Rule) (e : Event) : Classification :=
  ⟨r.spec.summary, r.spec.detail.tell e, r.spec.primary⟩

/-- A rule as it is shown for inspection. -/
def inspect (r : Rule) : String :=
  let source := match r.spec.source with
    | .pod => "Pod"
    | .event => "Event"
  "EventMatch \x7b source: " ++ source ++ ", reason: " ++ Text.quoted r.spec.reason
    ++ ", message: " ++ Text.quoted r.spec.pattern ++ ", summary: " ++ Text.quoted r.spec.summary
    ++ ", primary: " ++ (if r.spec.primary then "true" else "false") ++ " \x7d"

theorem spec_ofSpec? {spec : RuleSpec} {r : Rule} (h : ofSpec? spec = some r) : r.spec = spec := by
  unfold ofSpec? at h
  split at h
  · cases h
    rfl
  · cases h

end Rule

/-- Why a table could not be made: the pattern of some rule cannot be read. -/
structure RuleError where
  version : String
  reason : String
  deriving DecidableEq, Repr

/-- The rules of one version, in the order in which they are tried. -/
structure RuleTable where
  version : String
  rules : List Rule

namespace RuleTable

/-- The rules of declarations; the first that cannot be read is reported. -/
def readRules (version : String) : List RuleSpec → Except RuleError (List Rule)
  | [] => .ok []
  | spec :: rest =>
    match Rule.ofSpec? spec with
    | none => .error ⟨version, spec.reason⟩
    | some r => (readRules version rest).map (r :: ·)

/-- The table of declarations. -/
def ofSpecs (version : String) (specs : List RuleSpec) : Except RuleError RuleTable :=
  (readRules version specs).map fun rules => ⟨version, rules⟩

/-- What an event means by the first rule that recognises it. -/
def classify (t : RuleTable) (e : Event) : Option Classification :=
  (t.rules.find? (·.recognizes e)).map (·.meaning e)

/-- The positions of all rules that recognise an event. -/
def recognizing (t : RuleTable) (e : Event) : List Nat :=
  (t.rules.zipIdx.filter fun (r, _) => r.recognizes e).map (·.2)

end RuleTable

end IncidentWatch

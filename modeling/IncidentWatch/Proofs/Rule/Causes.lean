import IncidentWatch.Proofs.Rule.Agreement

/-!
# Causes by the text of a message

What the book of the catalogue says of the status of a container can be told without patterns: by
the phrases that a message mentions, and for a missing secret or config map by the phrases that
one line mentions in turn (`podCause?`). The declarations for a reason are tried in order, and the
last of them finds every message, so each of the reasons has a cause whatever the message
(`pod_events_are_classified_by_their_text`).
-/

set_option autoImplicit false

namespace IncidentWatch

namespace Catalogue

open Text

/-! ## Decision lists -/

/-- Why an image could not be pulled. -/
def pullCause (minor : String) (message : List Char) : String :=
  if ∃ s ∈ ["not found", "manifest unknown", "does not exist"], Mentions s message then
    imageMissing
  else if ∃ s ∈ ["unauthorized", "denied", "authentication required"], Mentions s message then
    imageUnauthorized
  else if TellsRateLimits minor ∧ ∃ s ∈ ["toomanyrequests", "rate limit"], Mentions s message then
    imageRateLimited
  else
    imagePullFailed

/-- Why a container could not be configured. -/
def configCause (message : List Char) : String :=
  if ∃ line ∈ lines message, MentionsInTurn "secret " " not found" line then secretMissing
  else if ∃ line ∈ lines message, MentionsInTurn "configmap " " not found" line then
    configMapMissing
  else configInvalid

/-- The cause that the status of a container tells. -/
def podCause? (minor reason : String) (message : List Char) : Option String :=
  if reason = "OOMKilled" then some outOfMemory
  else if reason = "CrashLoopBackOff" then some crashLooping
  else if reason = "Error" then some exitedWithError
  else if reason = "ErrImagePull" ∨ reason = "ImagePullBackOff" then some (pullCause minor message)
  else if reason = "CreateContainerConfigError" then some (configCause message)
  else none

/-! ## Declarations that are tried in order -/

variable {minor reason message : String}

/-- The summary by the first of some declarations whose pattern finds a message. -/
def firstSummary? (specs : List RuleSpec) (message : String) : Option String :=
  (specs.find? (Pattern.finds ·.pattern message)).map (·.summary)

theorem firstSummary?_cons (spec : RuleSpec) (rest : List RuleSpec) (message : String) :
    firstSummary? (spec :: rest) message =
      if Pattern.finds spec.pattern message = true then some spec.summary
      else firstSummary? rest message := by
  unfold firstSummary?
  rw [List.find?_cons]
  cases Pattern.finds spec.pattern message <;> rfl

/-- The first declarations are the only ones of their reasons. -/
theorem firstSummary?_of_mem_take {summary : String} {style : DetailStyle}
    (among : podRule reason ".*" summary style ∈ head.take 3) :
    firstSummary? ((Catalogue.specs minor).filter (·.concerns .pod reason)) message =
      some summary := by
  have alone : ∀ spec ∈ head.take 3,
      (Catalogue.specs minor).filter (·.concerns .pod spec.reason) = [spec] := by
    rw [specs_eq]
    split <;> decide +kernel
  have only : (Catalogue.specs minor).filter (·.concerns .pod reason) = [_] := alone _ among
  rw [only, firstSummary?_cons]
  exact if_pos (Pattern.finds_any message)

theorem filter_specs_of_pull (pull : reason = "ErrImagePull" ∨ reason = "ImagePullBackOff") :
    (Catalogue.specs minor).filter (·.concerns .pod reason) =
      [podRule reason missingImage imageMissing .message,
        podRule reason unauthorized imageUnauthorized .message] ++
      (if TellsRateLimits minor then [podRule reason rateLimited imageRateLimited .message]
        else []) ++
      [podRule reason ".*" imagePullFailed .message] := by
  rw [specs_eq]
  rcases pull with rfl | rfl <;> split <;> decide +kernel

theorem firstSummary?_of_pull (pull : reason = "ErrImagePull" ∨ reason = "ImagePullBackOff") :
    firstSummary? ((Catalogue.specs minor).filter (·.concerns .pod reason)) message =
      some (pullCause minor message.toList) := by
  rw [filter_specs_of_pull pull, pullCause]
  by_cases tells : TellsRateLimits minor
  · rw [if_pos tells]
    simp only [List.cons_append, List.nil_append, firstSummary?_cons, podRule, finds_missingImage,
      finds_unauthorized, finds_rateLimited, Pattern.finds_any, tells, true_and, if_true]
    split_ifs <;> rfl
  · rw [if_neg tells]
    simp only [List.cons_append, List.nil_append, firstSummary?_cons, podRule, finds_missingImage,
      finds_unauthorized, Pattern.finds_any, tells, false_and, if_false, if_true]
    split_ifs <;> rfl

theorem firstSummary?_of_config :
    firstSummary? ((Catalogue.specs minor).filter (·.concerns .pod "CreateContainerConfigError"))
      message = some (configCause message.toList) := by
  have declared :
      (Catalogue.specs minor).filter (·.concerns .pod "CreateContainerConfigError") =
        [podRule "CreateContainerConfigError" "(?i)secret .* not found" secretMissing .message,
          podRule "CreateContainerConfigError" "(?i)configmap .* not found" configMapMissing
            .message,
          podRule "CreateContainerConfigError" ".*" configInvalid .message] := by
    rw [specs_eq]
    split <;> decide +kernel
  rw [declared, configCause]
  simp only [firstSummary?_cons, podRule, finds_missingSecret, finds_missingConfigMap,
    Pattern.finds_any, if_true]
  split_ifs <;> rfl

/-- The reasons for which there is a declaration on the status of containers. -/
def podReasons : List String :=
  ["OOMKilled", "CrashLoopBackOff", "Error", "ErrImagePull", "ImagePullBackOff",
    "CreateContainerConfigError"]

theorem filter_specs_of_not_mem (other : reason ∉ podReasons) :
    (Catalogue.specs minor).filter (·.concerns .pod reason) = [] := by
  have reasons : ∀ spec ∈ Catalogue.specs minor, spec.source = .pod → spec.reason ∈ podReasons := by
    rw [specs_eq]
    split <;> decide +kernel
  refine List.filter_eq_nil_iff.2 fun spec among concerns => other ?_
  simp only [RuleSpec.concerns, Bool.and_eq_true, decide_eq_true_eq] at concerns
  exact concerns.2 ▸ reasons spec among concerns.1

end Catalogue

namespace RuleBook

open Catalogue

variable {spelling minor : String} {e : Event}

/-- What the status of a container means to a version that is supported is the cause that the
decision list tells by the reason and the message, whatever the message. -/
theorem pod_events_are_classified_by_their_text
    (named : Version.normalize? spelling = some minor) (supported : minor ∈ supportedVersions)
    (pod : e.source = .pod) :
    (builtin.classify spelling e).map (·.summary) = podCause? minor e.reason e.message.toList := by
  have decided : (builtin.classify spelling e).map (·.summary) =
      firstSummary? ((Catalogue.specs minor).filter (·.concerns .pod e.reason)) e.message := by
    rw [classify_builtin named supported, RuleSpec.find?_recognizes, pod, Option.map_map]
    rfl
  rw [decided]
  unfold podCause?
  split_ifs with killed looping failed pull config
  · rw [killed]
    exact firstSummary?_of_mem_take (.head _)
  · rw [looping]
    exact firstSummary?_of_mem_take (.tail _ (.head _))
  · rw [failed]
    exact firstSummary?_of_mem_take (.tail _ (.tail _ (.head _)))
  · exact firstSummary?_of_pull pull
  · rw [config]
    exact firstSummary?_of_config
  · have other : e.reason ∉ podReasons := by
      simp only [podReasons, List.mem_cons, List.not_mem_nil, or_false, not_or]
      exact ⟨killed, looping, failed, fun r => pull (.inl r), fun r => pull (.inr r), config⟩
    rw [filter_specs_of_not_mem other]
    rfl

/-- The long letter `ſ` folds to the letter that the phrase has, and a line break stands before
the line that counts. -/
theorem pod_events_are_classified_by_their_text_of_missing_secret :
    (builtin.classify "v1.27.0" (podEvent "CreateContainerConfigError"
      "cannot start\nſecret of db NOT found")).map (·.summary) = some secretMissing := by
  have named : Version.normalize? "v1.27.0" = some "1.27" := by decide +kernel
  exact (pod_events_are_classified_by_their_text named (by decide) rfl).trans (by decide +kernel)

end RuleBook

end IncidentWatch

import IncidentWatch.Proofs.Rule.Wording

/-!
# Tables of different versions

The tables of the catalogue have the same rules before and behind those on rate limits, which only
the later versions have. A rule on rate limits decides only where no rule before it does
(`OnlyLimited`); then a rule behind it recognises the event as well, and tells the same detail
(`find?_specs_of_onlyLimited`). So two versions agree on all events but those
(`versions_agree_but_on_rate_limits`).
-/

set_option autoImplicit false

namespace IncidentWatch

namespace Catalogue

variable {minor a b : String} {e : Event}

/-- The table of a minor version has the rules on rate limits. -/
def TellsRateLimits (minor : String) : Prop :=
  rateLimitSince ≤ Version.minorNumber minor

instance (minor : String) : Decidable (TellsRateLimits minor) :=
  inferInstanceAs (Decidable (_ ≤ _))

/-- A failed pull that the rules on rate limits recognise, and none before them. -/
structure OnlyLimited (e : Event) : Prop where
  pod : e.source = .pod
  pull : e.reason = "ErrImagePull" ∨ e.reason = "ImagePullBackOff"
  unrecognized : ∀ spec ∈ head, spec.recognizes e = false
  limited : Pattern.finds rateLimited e.message = true

theorem specs_eq (minor : String) :
    Catalogue.specs minor = head ++ (if TellsRateLimits minor then rateLimits else []) ++ tail :=
  rfl

theorem specs_congr (same : TellsRateLimits a ↔ TellsRateLimits b) :
    Catalogue.specs a = Catalogue.specs b := by
  rw [specs_eq, specs_eq, if_congr same rfl rfl]

theorem find?_specs (p : RuleSpec → Bool) : (Catalogue.specs minor).find? p =
    (head.find? p).or ((if TellsRateLimits minor then rateLimits.find? p else none).or
      (tail.find? p)) := by
  rw [specs_eq, List.append_assoc, List.find?_append, List.find?_append, apply_ite (List.find? p),
    List.find?_nil]

/-- A rule on rate limits decides about nothing else than what it is for. -/
theorem onlyLimited_of_find? {spec : RuleSpec} (before : head.find? (·.recognizes e) = none)
    (found : rateLimits.find? (·.recognizes e) = some spec) : OnlyLimited e := by
  have among := List.mem_of_find?_eq_some found
  have recognized := List.find?_some found
  have unrecognized : ∀ spec ∈ head, spec.recognizes e = false := by
    simpa using before
  simp only [RuleSpec.recognizes, RuleSpec.concerns, Bool.and_eq_true, decide_eq_true_eq]
    at recognized
  obtain ⟨⟨source, reason⟩, finds⟩ := recognized
  simp only [rateLimits, List.mem_cons, List.not_mem_nil, or_false] at among
  rcases among with rfl | rfl
  · exact ⟨source.symm, Or.inl reason.symm, unrecognized, finds⟩
  · exact ⟨source.symm, Or.inr reason.symm, unrecognized, finds⟩

/-- Without the rules on rate limits all is recognised as with them, but for what only they
recognise. -/
theorem find?_specs_of_not_onlyLimited (other : ¬ OnlyLimited e) :
    (Catalogue.specs minor).find? (·.recognizes e) = (head ++ tail).find? (·.recognizes e) := by
  rw [find?_specs, List.find?_append]
  cases before : head.find? (·.recognizes e) with
  | some spec => rfl
  | none =>
      cases found : rateLimits.find? (·.recognizes e) with
      | some spec => exact absurd (onlyLimited_of_find? before found) other
      | none => rw [ite_self, Option.none_or]

/-- What is recognised by the rules on rate limits alone is a failed pull to the tables without
them. -/
theorem find?_specs_of_onlyLimited (only : OnlyLimited e) :
    (Catalogue.specs minor).find? (·.recognizes e) =
      some (if TellsRateLimits minor then podRule e.reason rateLimited imageRateLimited .message
        else podRule e.reason ".*" imagePullFailed .message) := by
  obtain ⟨pod, pull, unrecognized, limited⟩ := only
  have before : head.find? (·.recognizes e) = none := by
    simpa using unrecognized
  have limits : rateLimits.filter (·.concerns e.source e.reason) =
      [podRule e.reason rateLimited imageRateLimited .message] := by
    rcases pull with reason | reason <;> rw [pod, reason] <;> decide +kernel
  have others : tail.filter (·.concerns e.source e.reason) =
      [podRule e.reason ".*" imagePullFailed .message] := by
    rcases pull with reason | reason <;> rw [pod, reason] <;> decide +kernel
  rw [find?_specs, before, RuleSpec.find?_recognizes, RuleSpec.find?_recognizes, limits, others,
    List.find?_singleton, List.find?_singleton]
  simp only [podRule, limited, Pattern.finds_any]
  split <;> rfl

end Catalogue

namespace RuleBook

open Catalogue

/-- Two versions that are supported give every event the same meaning, but for failed pulls that
only the rules on rate limits tell from the others: of these the earlier versions say that the
image could not be pulled and the later ones that the registry limits the rate, with the same
detail, and both as a primary cause. -/
theorem versions_agree_but_on_rate_limits {v w a b : String} (e : Event)
    (named : Version.normalize? v = some a) (named' : Version.normalize? w = some b)
    (supported : a ∈ supportedVersions) (supported' : b ∈ supportedVersions) :
    (¬ (¬ (TellsRateLimits a ↔ TellsRateLimits b) ∧ OnlyLimited e) →
      builtin.classify v e = builtin.classify w e) ∧
    (¬ TellsRateLimits a ∧ TellsRateLimits b ∧ OnlyLimited e →
      builtin.classify v e = some ⟨imagePullFailed, DetailStyle.message.tell e, true⟩ ∧
      builtin.classify w e = some ⟨imageRateLimited, DetailStyle.message.tell e, true⟩) := by
  rw [classify_builtin named supported, classify_builtin named' supported']
  constructor
  · intro usual
    by_cases same : TellsRateLimits a ↔ TellsRateLimits b
    · rw [specs_congr same]
    · have other : ¬ OnlyLimited e := fun only => usual ⟨same, only⟩
      rw [find?_specs_of_not_onlyLimited other, find?_specs_of_not_onlyLimited other]
  · rintro ⟨early, late, only⟩
    rw [find?_specs_of_onlyLimited only, find?_specs_of_onlyLimited only, if_neg early, if_pos late]
    exact ⟨rfl, rfl⟩

/-- An event on the status of a container, as an example. -/
def podEvent (reason message : String) : Event where
  podName := "web-0"
  podNamespace := "default"
  source := .pod
  reason := reason
  message := message
  exitCode := none
  severity := .high
  timestamp := .epoch
  owner := none
  chartName := none
  releaseName := none

/-- A refused pull, as clusters tell it that spell their versions 1.29 and 1.30 in full. -/
theorem versions_agree_but_on_rate_limits_of_refused_pull :
    builtin.classify " v1.29.3-eks-1" (podEvent "ErrImagePull" "TooManyRequests") =
      some ⟨imagePullFailed, "Pod default/web-0: TooManyRequests", true⟩ ∧
    builtin.classify "v1.30.2-gke.1" (podEvent "ErrImagePull" "TooManyRequests") =
      some ⟨imageRateLimited, "Pod default/web-0: TooManyRequests", true⟩ := by
  have only : OnlyLimited (podEvent "ErrImagePull" "TooManyRequests") :=
    ⟨rfl, Or.inl rfl, by decide +kernel, by decide +kernel⟩
  have earlier : Version.normalize? " v1.29.3-eks-1" = some "1.29" := by decide +kernel
  have later : Version.normalize? "v1.30.2-gke.1" = some "1.30" := by decide +kernel
  exact (versions_agree_but_on_rate_limits _ earlier later (by decide) (by decide)).2
    ⟨by decide +kernel, by decide +kernel, only⟩

end RuleBook

end IncidentWatch

import IncidentWatch.Proofs.Pattern.Phrases
import IncidentWatch.Proofs.Rule.Declared

/-!
# What the patterns of the catalogue find

A pattern that is a choice of phrases finds the messages that mention one of them
(`finds_phrases`), one of two phrases with a gap between them those of which some line mentions
both in turn (`finds_apart`), and a mere gap finds all (`finds_any`). Every pattern on the status
of containers is read as one of these.
-/

set_option autoImplicit false

namespace IncidentWatch

namespace Pattern

open Text

variable {pattern message first second : String} {p : Pattern}

theorem finds_iff (read : parse? pattern = some p) :
    finds pattern message = true ↔ p.Occurs none message.toList := by
  rw [finds, read, Option.any_some, occursIn_iff]

theorem finds_phrases {phrases : List String}
    (read : parse? pattern = some (choice (phrases.map fun s => sequence (phrase s)))) :
    finds pattern message = true ↔ ∃ s ∈ phrases, Mentions s message.toList := by
  rw [finds_iff read, occurs_choice_iff]
  simp only [List.mem_map, exists_exists_and_eq_and, occurs_phrase_iff]

theorem finds_apart (read : parse? pattern = some (sequence (phrase first ++ gap :: phrase second)))
    (inLine : '\n' ∉ first.toList) (inLine' : '\n' ∉ second.toList) :
    finds pattern message = true ↔
      ∃ line ∈ lines message.toList, MentionsInTurn first second line := by
  rw [finds_iff read, occurs_gap_iff inLine inLine']

theorem finds_any (message : String) : finds ".*" message = true := by
  have read : parse? ".*" = some gap := by decide +kernel
  refine (finds_iff read).2 ⟨[], message.toList, rfl, [], message.toList, rfl, ?_⟩
  exact matches_gap_iff.2 List.not_mem_nil

end Pattern

namespace Catalogue

open Text

variable {message : String}

theorem finds_missingImage : Pattern.finds missingImage message = true ↔
    ∃ s ∈ ["not found", "manifest unknown", "does not exist"], Mentions s message.toList :=
  Pattern.finds_phrases (by decide +kernel)

theorem finds_unauthorized : Pattern.finds unauthorized message = true ↔
    ∃ s ∈ ["unauthorized", "denied", "authentication required"], Mentions s message.toList :=
  Pattern.finds_phrases (by decide +kernel)

theorem finds_rateLimited : Pattern.finds rateLimited message = true ↔
    ∃ s ∈ ["toomanyrequests", "rate limit"], Mentions s message.toList :=
  Pattern.finds_phrases (by decide +kernel)

theorem finds_missingSecret : Pattern.finds "(?i)secret .* not found" message = true ↔
    ∃ line ∈ lines message.toList, MentionsInTurn "secret " " not found" line :=
  Pattern.finds_apart (by decide +kernel) (by decide +kernel) (by decide +kernel)

theorem finds_missingConfigMap : Pattern.finds "(?i)configmap .* not found" message = true ↔
    ∃ line ∈ lines message.toList, MentionsInTurn "configmap " " not found" line :=
  Pattern.finds_apart (by decide +kernel) (by decide +kernel) (by decide +kernel)

end Catalogue

end IncidentWatch

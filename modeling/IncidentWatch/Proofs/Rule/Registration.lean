import IncidentWatch.Proofs.Rule.Agreement
import IncidentWatch.Proofs.Rule.Spelling

/-!
# Taking in a table

A table is held under its version as it is spelled and looked up under a minor version
(`table?_insert`). A minor version names itself and nothing else, so a table is found under its
own version exactly when that is a minor version already; under any other spelling of it the
table is held, but no lookup ever reaches it (`own_version_is_found_if_minor`).
-/

set_option autoImplicit false

namespace IncidentWatch.RuleBook

variable {spelling minor : String} {t : RuleTable}

/-- A table that was taken in is found by the spellings of which its version is the minor
version. -/
theorem table?_insert (b : RuleBook) (t : RuleTable) (spelling : String) :
    (b.insert t).table? spelling =
      if Version.normalize? spelling = some t.version then some t else b.table? spelling := by
  cases named : Version.normalize? spelling with
  | none => simp [table?, named]
  | some minor =>
      rw [table?_of_normalize? named, table?_of_normalize? named, get?_insert]
      exact if_congr Option.some_inj.symm rfl rfl

/-- Only a minor version is the minor version of a spelling. -/
theorem version_eq_minor (named : Version.normalize? t.version = some minor)
    (found : Version.normalize? spelling = some t.version) : t.version = minor :=
  Option.some_inj.1 ((Version.normalize?_normalize? found).symm.trans named)

/-- A table whose version can be read is found under that version if it is spelled as its minor
version, and otherwise under no version; what is found under other minor versions stays. -/
theorem own_version_is_found_if_minor (b : RuleBook) (t : RuleTable) (e : Event)
    (named : Version.normalize? t.version = some minor) :
    (b.insert t).classify t.version e =
      (if t.version = minor then t.classify e else b.classify t.version e) ∧
    (t.version ≠ minor → ∀ spelling, (b.insert t).table? spelling = b.table? spelling) ∧
    ∀ spelling, Version.normalize? spelling ≠ some minor →
      (b.insert t).table? spelling = b.table? spelling := by
  have kept : ∀ {spelling}, Version.normalize? spelling ≠ some t.version →
      (b.insert t).table? spelling = b.table? spelling := fun other => by
    rw [table?_insert, if_neg other]
  refine ⟨?_, fun patched spelling => kept fun found => patched (version_eq_minor named found),
    fun spelling other => kept fun found => other ?_⟩
  · by_cases canonical : t.version = minor
    · have found : (b.insert t).table? t.version = some t := by
        rw [table?_insert, if_pos (named.trans (congrArg some canonical.symm))]
      rw [if_pos canonical, classify_of_table? found]
    · have lookup : (b.insert t).table? t.version = b.table? t.version :=
        kept fun found => canonical (version_eq_minor named found)
      rw [if_neg canonical, classify, classify, lookup]
  · rw [found, version_eq_minor named found]

/-- A table of one rule, as an example. -/
def oneRuleTable (version : String) : RuleTable where
  version := version
  rules := [⟨Catalogue.podRule "OOMKilled" ".*" Catalogue.outOfMemory .message, .gap,
    by decide +kernel⟩]

/-- A table spelled as its minor version is found, in place of one that was there. -/
theorem own_version_is_found_if_minor_of_one_rule :
    ((empty.insert ⟨"1.28", []⟩).insert (oneRuleTable "1.28")).classify "1.28"
      (podEvent "OOMKilled" "") =
        some ⟨Catalogue.outOfMemory, "Pod default/web-0 reported OOMKilled", true⟩ := by
  have named : Version.normalize? (oneRuleTable "1.28").version = some "1.28" := by
    decide +kernel
  exact (own_version_is_found_if_minor _ _ _ named).1.trans (by decide +kernel)

/-- A table spelled with its patch level can be made and means an event, but is not found under
its own version. -/
theorem patched_version_is_not_found :
    RuleTable.ofSpecs "v1.28.3"
      [Catalogue.podRule "OOMKilled" ".*" Catalogue.outOfMemory .message] =
        .ok (oneRuleTable "v1.28.3") ∧
    Version.normalize? (oneRuleTable "v1.28.3").version = some "1.28" ∧
    (oneRuleTable "v1.28.3").classify (podEvent "OOMKilled" "") =
      some ⟨Catalogue.outOfMemory, "Pod default/web-0 reported OOMKilled", true⟩ ∧
    (empty.insert (oneRuleTable "v1.28.3")).classify (oneRuleTable "v1.28.3").version
      (podEvent "OOMKilled" "") = none :=
  ⟨rfl, by decide +kernel⟩

end IncidentWatch.RuleBook

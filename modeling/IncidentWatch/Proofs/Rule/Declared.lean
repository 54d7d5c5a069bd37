import Mathlib.Data.List.Induction
import IncidentWatch.Rule.Book

/-!
# Rules as they are declared

A table of declarations means an event as the first declaration that recognises it says
(`classify_eq_of_specs`), and every declaration of the catalogue can be read, so the book of the
catalogue can be told from its declarations alone (`classify_builtin`). Which declaration decides
is a matter of those for the source and the reason of the event (`find?_recognizes`): their
patterns are tried in order.
-/

set_option autoImplicit false

namespace IncidentWatch

variable {version minor : String} {specs : List RuleSpec} {rules : List Rule} {t : RuleTable}
  {e : Event}

/-! ## Declarations -/

/-- Some part of a message matches a pattern in writing. -/
def Pattern.finds (pattern message : String) : Bool :=
  (Pattern.parse? pattern).any (·.occursIn message)

namespace RuleSpec

/-- Whether a declaration is for events of a source and a reason. -/
def concerns (spec : RuleSpec) (source : EventSource) (reason : String) : Bool :=
  spec.source = source && spec.reason = reason

/-- Whether the rule of a declaration recognises an event. -/
def recognizes (spec : RuleSpec) (e : Event) : Bool :=
  spec.concerns e.source e.reason && Pattern.finds spec.pattern e.message

/-- What an event means by a declaration. -/
def meaning (spec : RuleSpec) (e : Event) : Classification :=
  ⟨spec.summary, spec.detail.tell e, spec.primary⟩

/-- The patterns of the declarations for the source and the reason are tried in order. -/
theorem find?_recognizes (specs : List RuleSpec) (e : Event) :
    specs.find? (·.recognizes e) =
      (specs.filter (·.concerns e.source e.reason)).find? (Pattern.finds ·.pattern e.message) := by
  simp only [List.find?_filter, recognizes, Bool.decide_and, Bool.decide_eq_true]

end RuleSpec

theorem Rule.recognizes_spec (r : Rule) (e : Event) : r.recognizes e = r.spec.recognizes e := by
  rw [Rule.recognizes, RuleSpec.recognizes, Pattern.finds, r.reads]
  rfl

/-! ## Tables -/

namespace RuleTable

/-- The rules that are read are those of the declarations, in their order. -/
theorem map_spec_readRules (read : readRules version specs = .ok rules) :
    rules.map (·.spec) = specs := by
  induction specs generalizing rules with
  | nil =>
      cases read
      rfl
  | cons spec rest inductionHypothesis =>
      unfold readRules at read
      cases found : Rule.ofSpec? spec with
      | none =>
          rw [found] at read
          cases read
      | some r =>
          rw [found] at read
          cases others : readRules version rest with
          | error refused =>
              rw [others] at read
              cases read
          | ok rules' =>
              rw [others] at read
              cases read
              rw [List.map_cons, Rule.spec_ofSpec? found, inductionHypothesis others]

/-- Declarations whose patterns can be read make a table. -/
theorem exists_ofSpecs (version : String)
    (readable : ∀ spec ∈ specs, (Pattern.parse? spec.pattern).isSome = true) :
    ∃ t, ofSpecs version specs = .ok t := by
  have rules : ∃ rules, readRules version specs = .ok rules := by
    induction specs with
    | nil => exact ⟨[], rfl⟩
    | cons spec rest inductionHypothesis =>
        obtain ⟨readable, others⟩ := List.forall_mem_cons.1 readable
        obtain ⟨rules, read⟩ := inductionHypothesis others
        obtain ⟨r, found⟩ : ∃ r, Rule.ofSpec? spec = some r := by
          unfold Rule.ofSpec?
          split
          · exact ⟨_, rfl⟩
          · rename_i unreadable
            rw [unreadable] at readable
            cases readable
        exact ⟨r :: rules, by rw [readRules, found, read]; rfl⟩
  obtain ⟨rules, read⟩ := rules
  exact ⟨⟨version, rules⟩, by rw [ofSpecs, read]; rfl⟩

theorem version_and_specs_of_ofSpecs (made : ofSpecs version specs = .ok t) :
    t.version = version ∧ t.rules.map (·.spec) = specs := by
  unfold ofSpecs at made
  cases read : readRules version specs with
  | error refused =>
      rw [read] at made
      cases made
  | ok rules =>
      rw [read] at made
      cases made
      exact ⟨rfl, map_spec_readRules read⟩

/-- A table means an event as the first declaration that recognises it says. -/
theorem classify_eq_of_specs (declared : t.rules.map (·.spec) = specs) (e : Event) :
    t.classify e = (specs.find? (·.recognizes e)).map (·.meaning e) := by
  subst declared
  rw [List.find?_map, Option.map_map, classify]
  simp only [Function.comp_def, ← Rule.recognizes_spec]
  rfl

end RuleTable

/-! ## The catalogue -/

namespace Catalogue

/-- Every pattern of the catalogue can be read. -/
theorem parse?_of_mem_specs (version : String) :
    ∀ spec ∈ Catalogue.specs version, (Pattern.parse? spec.pattern).isSome = true := by
  have readable : ∀ spec ∈ head ++ rateLimits ++ tail,
      (Pattern.parse? spec.pattern).isSome = true := by
    decide +kernel
  intro spec among
  refine readable spec ?_
  unfold Catalogue.specs at among
  split at among
  · exact among
  · rw [List.append_nil] at among
    simp only [List.mem_append] at among ⊢
    exact among.imp_left Or.inl

end Catalogue

namespace RuleBook

variable {b : RuleBook} {spelling : String}

theorem table?_of_normalize? (named : Version.normalize? spelling = some minor) :
    b.table? spelling = b.tables.get? minor := by
  rw [table?, named]
  rfl

theorem classify_of_table? (found : b.table? spelling = some t) (e : Event) :
    b.classify spelling e = t.classify e := by
  rw [classify, found]
  rfl

theorem get?_insert (b : RuleBook) (t : RuleTable) (name : String) :
    (b.insert t).tables.get? name = if name = t.version then some t else b.tables.get? name :=
  ByName.get?_insert b.tables t.version name t

/-- The book holds, under each version that was gone through, the table of its declarations. -/
theorem get?_builtin (supported : minor ∈ Catalogue.supportedVersions) :
    ∃ t, RuleTable.ofSpecs minor (Catalogue.specs minor) = .ok t ∧
      builtin.tables.get? minor = some t := by
  obtain ⟨t, made⟩ := RuleTable.exists_ofSpecs minor (Catalogue.parse?_of_mem_specs minor)
  refine ⟨t, made, ?_⟩
  unfold builtin
  -- From the last version back, for the table that was taken in last is the one that is held.
  generalize Catalogue.supportedVersions = versions at supported
  induction versions using List.reverseRecOn with
  | nil => cases supported
  | append_singleton before last inductionHypothesis =>
      obtain ⟨t', made'⟩ := RuleTable.exists_ofSpecs last (Catalogue.parse?_of_mem_specs last)
      simp only [List.foldl_append, List.foldl_cons, List.foldl_nil, made']
      rw [get?_insert, (RuleTable.version_and_specs_of_ofSpecs made').1]
      by_cases now : minor = last
      · subst now
        rw [if_pos rfl, Except.ok.inj (made'.symm.trans made)]
      · rw [if_neg now]
        have earlier := (List.mem_append.1 supported).resolve_right (now <| List.mem_singleton.1 ·)
        exact inductionHypothesis earlier

/-- What the book of the catalogue says to a version it supports. -/
theorem classify_builtin (named : Version.normalize? spelling = some minor)
    (supported : minor ∈ Catalogue.supportedVersions) (e : Event) :
    builtin.classify spelling e =
      ((Catalogue.specs minor).find? (·.recognizes e)).map (·.meaning e) := by
  obtain ⟨t, made, held⟩ := get?_builtin supported
  rw [classify_of_table? ((table?_of_normalize? named).trans held) e]
  exact RuleTable.classify_eq_of_specs (RuleTable.version_and_specs_of_ofSpecs made).2 e

end RuleBook

end IncidentWatch

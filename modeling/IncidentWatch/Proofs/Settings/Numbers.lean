import IncidentWatch.Proofs.Text.Numerals
import IncidentWatch.Settings.Environment

/-!
# Numbers in the environment

A number setting is a word for yes or no, in letters of either case, or a numeral, with a plus
sign or without (`Environment.Writes`), and no other text is one (`number?_eq_some_iff`). No
numeral is also a word, as a word has a letter in it, which stays one in small letters.

One setting that cannot be read puts all of them back to their defaults. So the interval
between the sweeps is nothing in those environments only that set it to nothing and of which
every other number can be read (`resolveInterval_eq_zero_iff`). There are several spellings of
nothing: the words for no, and any run of zeros (`writes_zero_iff`).
-/

set_option autoImplicit false

namespace IncidentWatch.Environment

open Text

/-! ## The texts of numbers -/

/-- The texts of a number setting, with the numbers that they write. -/
inductive Writes (value : String) : Nat → Prop
  | yes (word : lowercase value ∈ ["true", "on", "yes"]) : Writes value 1
  | no (word : lowercase value ∈ ["false", "off", "no"]) : Writes value 0
  | numeral {sign digits : List Char} (signed : sign = [] ∨ sign = ['+'])
      (numeral : IsNumeral digits) (spelled : value.toList = sign ++ digits) :
      Writes value (Text.value digits)

/-- The spellings of nothing: the words for no, and zeros, with a plus sign or without. -/
def WritesZero (value : String) : Prop :=
  lowercase value ∈ ["false", "off", "no"] ∨
    ∃ sign zeros, (sign = [] ∨ sign = ['+']) ∧
      value.toList = sign ++ List.replicate (zeros + 1) '0'

variable {value : String} {sign digits : List Char} {bound n : Nat}

theorem small_of_isDigit {c : Char} (digit : isDigit c = true) : small c = c := by
  unfold small
  refine if_neg fun capital => ?_
  have low := Char.le_trans (Char.le_def.2 capital.1) (of_decide_eq_true digit).2
  exact absurd low (by decide)

/-- A numeral is no word, since a word has letters in it. -/
theorem lowercase_ne_of_isNumeral (signed : sign = [] ∨ sign = ['+']) (numeral : IsNumeral digits)
    (spelled : value.toList = sign ++ digits) :
    ∀ word ∈ ["true", "on", "yes", "false", "off", "no"], lowercase value ≠ word := by
  have unlettered : ∀ c ∈ (lowercase value).toList, isDigit c = true ∨ c = '+' := by
    intro c member
    rw [lowercase, String.toList_ofList, spelled, List.map_append, List.mem_append] at member
    rcases member with inSign | inDigits
    · rcases signed with rfl | rfl
      · cases inSign
      · exact Or.inr (List.mem_singleton.1 inSign)
    · obtain ⟨d, digit, rfl⟩ := List.mem_map.1 inDigits
      rw [small_of_isDigit (numeral.run d digit)]
      exact Or.inl (numeral.run d digit)
  have lettered : ∀ word ∈ ["true", "on", "yes", "false", "off", "no"],
      'e' ∈ word.toList ∨ 'o' ∈ word.toList := by decide
  rintro word known rfl
  rcases lettered _ known with member | member
  · exact absurd (unlettered 'e' member) (by decide)
  · exact absurd (unlettered 'o' member) (by decide)

/-- What is read of a number setting is what its text writes, up to the bound. -/
theorem number?_eq_some_iff (positive : 1 ≤ bound) (fits : bound ≤ uint64Max) :
    number? bound value = some n ↔ n ≤ bound ∧ Writes value n := by
  constructor
  · intro read
    unfold number? at read
    dsimp only at read
    split at read
    · rename_i word
      cases read
      exact ⟨positive, .yes (by simpa using word)⟩
    · split at read
      · rename_i word
        cases read
        exact ⟨Nat.zero_le bound, .no (by simpa using word)⟩
      · rw [Option.filter_eq_some_iff, unsigned?_eq_some_iff, decide_eq_true_eq] at read
        obtain ⟨⟨-, sign, digits, signed, spelled, numeral, rfl⟩, le⟩ := read
        exact ⟨le, .numeral signed numeral spelled⟩
  · rintro ⟨le, written⟩
    unfold number?
    dsimp only
    cases written with
    | yes word => exact if_pos (by simpa using word)
    | no word =>
        have other : ¬ (lowercase value = "true" ∨ lowercase value = "on" ∨
            lowercase value = "yes") := by
          simp only [List.mem_cons, List.not_mem_nil, or_false] at word
          rcases word with same | same | same <;> rw [same] <;> decide
        rw [if_neg other]
        exact if_pos (by simpa using word)
    | numeral signed numeral spelled =>
        have noWord := lowercase_ne_of_isNumeral signed numeral spelled
        rw [if_neg (by simp [noWord]), if_neg (by simp [noWord]), Option.filter_eq_some_iff,
          unsigned?_eq_some_iff, decide_eq_true_eq]
        exact ⟨⟨le.trans fits, _, _, signed, spelled, numeral, rfl⟩, le⟩

theorem writes_zero_iff : Writes value 0 ↔ WritesZero value := by
  constructor
  · intro written
    generalize zero : 0 = n at written
    cases written with
    | yes word => cases zero
    | no word => exact Or.inl word
    | numeral signed numeral spelled =>
        obtain ⟨zeros, rfl⟩ := numeral.value_eq_zero_iff.1 zero.symm
        exact Or.inr ⟨_, zeros, signed, spelled⟩
  · rintro (word | ⟨sign, zeros, signed, spelled⟩)
    · exact .no word
    · have numeral := isNumeral_replicate_zero zeros
      have written := Writes.numeral signed numeral spelled
      rwa [numeral.value_eq_zero_iff.2 ⟨zeros, rfl⟩] at written

/-! ## Settings that can be read -/

/-- A number setting is not set, or to a number up to the bound. -/
def Reads (env : Environment) (bound : Nat) (name : String) : Prop :=
  ∀ value ∈ env.setting? name, ∃ n ≤ bound, Writes value n

/-- The sweeps are to follow each other without a pause: the interval between them is set to
nothing, and all the other numbers can be read. -/
structure LeavesNoPause (env : Environment) : Prop where
  interval : ∃ value ∈ env.setting? "resolve_interval_secs", WritesZero value
  port : env.Reads 65535 "api_port"
  sweepLimit : env.Reads uint64Max "sweep_timeout_secs"
  queryLimit : env.Reads uint64Max "cluster_query_timeout_secs"

variable {env : Environment} {name : String} {default : Nat}

theorem numberSetting?_eq_some_iff (positive : 1 ≤ bound) (fits : bound ≤ uint64Max) :
    env.numberSetting? bound name default = some n ↔
      (env.setting? name = none ∧ n = default) ∨
        ∃ value ∈ env.setting? name, n ≤ bound ∧ Writes value n := by
  unfold numberSetting?
  cases env.setting? name with
  | none => simp [eq_comm]
  | some value => simp [number?_eq_some_iff positive fits]

theorem exists_numberSetting?_iff (default : Nat) (positive : 1 ≤ bound)
    (fits : bound ≤ uint64Max) :
    (∃ n, env.numberSetting? bound name default = some n) ↔ env.Reads bound name := by
  simp only [numberSetting?_eq_some_iff positive fits, Reads]
  cases env.setting? name <;> simp

theorem ofNat_eq_zero_iff (fits : n ≤ uint64Max) : UInt64.ofNat n = 0 ↔ n = 0 := by
  refine ⟨fun zero => ?_, fun zero => zero ▸ rfl⟩
  have toNat := congrArg UInt64.toNat zero
  rwa [UInt64.toNat_ofNat_of_lt' (Nat.lt_succ_of_le fits)] at toNat

/-- An interval of nothing is one that is written, since the default is longer. -/
theorem numberSetting?_interval_iff :
    (∃ n, env.numberSetting? uint64Max "resolve_interval_secs" 60 = some n ∧ UInt64.ofNat n = 0) ↔
      ∃ value ∈ env.setting? "resolve_interval_secs", WritesZero value := by
  simp only [numberSetting?_eq_some_iff (by decide) (Nat.le_refl uint64Max)]
  constructor
  · rintro ⟨n, ⟨-, rfl⟩ | ⟨value, there, fits, written⟩, zero⟩
    · exact absurd zero (by decide)
    · rw [ofNat_eq_zero_iff fits] at zero
      exact ⟨value, there, writes_zero_iff.1 (zero ▸ written)⟩
  · rintro ⟨value, there, written⟩
    exact ⟨0, Or.inr ⟨value, there, Nat.zero_le _, writes_zero_iff.2 written⟩, rfl⟩

/-- The settings are read, with an interval, when the interval and all other numbers are. -/
theorem readSettings?_interval_iff {interval : UInt64} :
    (∃ s, env.readSettings? = some s ∧ s.resolveInterval = interval) ↔
      (∃ n, env.numberSetting? uint64Max "resolve_interval_secs" 60 = some n ∧
        UInt64.ofNat n = interval) ∧
      env.Reads 65535 "api_port" ∧ env.Reads uint64Max "sweep_timeout_secs" ∧
        env.Reads uint64Max "cluster_query_timeout_secs" := by
  rw [← exists_numberSetting?_iff 8080 (by decide) (by decide),
    ← exists_numberSetting?_iff 45 (by decide) (Nat.le_refl uint64Max),
    ← exists_numberSetting?_iff 10 (by decide) (Nat.le_refl uint64Max)]
  constructor
  · rintro ⟨s, read, same⟩
    simp only [readSettings?, Option.bind_eq_bind, Option.bind_eq_some_iff, Option.pure_def,
      Option.some.injEq] at read
    obtain ⟨port, ofPort, n, ofInterval, sweepLimit, ofSweepLimit, queryLimit, ofQueryLimit,
      rfl⟩ := read
    exact ⟨⟨n, ofInterval, same⟩, ⟨port, ofPort⟩, ⟨sweepLimit, ofSweepLimit⟩,
      ⟨queryLimit, ofQueryLimit⟩⟩
  · rintro ⟨⟨n, ofInterval, same⟩, ⟨port, ofPort⟩, ⟨sweepLimit, ofSweepLimit⟩,
      ⟨queryLimit, ofQueryLimit⟩⟩
    unfold readSettings?
    rw [ofPort, ofInterval, ofSweepLimit, ofQueryLimit]
    exact ⟨_, rfl, same⟩

/-- The interval is nothing where it is set to nothing, if the other numbers can be read. -/
theorem resolveInterval_eq_zero_iff :
    env.agentSettings.resolveInterval = 0 ↔ env.LeavesNoPause := by
  have isRead : env.agentSettings.resolveInterval = 0 ↔
      ∃ s, env.readSettings? = some s ∧ s.resolveInterval = 0 := by
    unfold agentSettings
    cases env.readSettings? with
    | none =>
        -- By default there is a minute between the sweeps.
        exact ⟨nofun, nofun⟩
    | some s => simp
  rw [isRead, readSettings?_interval_iff, numberSetting?_interval_iff]
  exact ⟨fun ⟨set, port, sweepLimit, queryLimit⟩ => ⟨set, port, sweepLimit, queryLimit⟩,
    fun ⟨set, port, sweepLimit, queryLimit⟩ => ⟨set, port, sweepLimit, queryLimit⟩⟩

end IncidentWatch.Environment

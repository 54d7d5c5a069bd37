import IncidentWatch.Text.CaseFold
import Mathlib.Data.List.Pairwise

/-!
# Characters that fold to the same one

The runs of the table follow one another and none leads into another, so each code point is
in one run at most and folding once is enough (`foldPoint_foldPoint`). Therefore two
characters are alike exactly when they fold to the same one (`mem_alike_iff`). What is asked
of the table is checked run by run and pair by pair; the code points are not gone through.
-/

set_option autoImplicit false

namespace IncidentWatch.Text

/-! ## Runs -/

namespace FoldRun

/-- The code points that a run leads to. -/
def target (run : FoldRun) : FoldRun where
  first := (run.first + run.distance).toNat
  last := (run.last + run.distance).toNat
  stride := run.stride
  distance := 0

/-- Two runs share no code point: one lies behind the other, or their members take turns. -/
def isApart (run other : FoldRun) : Bool :=
  Nat.blt run.last other.first || Nat.blt other.last run.first
    || other.stride == 2 && (run.stride == 2 || run.first == run.last)
      && (run.first + other.first) % 2 == 1

/-- One run lies before the other. -/
def Precedes (run next : FoldRun) : Prop :=
  run.last < next.first ∧ next.first ≤ next.last

instance : DecidableRel Precedes := fun run next =>
  inferInstanceAs (Decidable (run.last < next.first ∧ next.first ≤ next.last))

instance : Trans Precedes Precedes Precedes where
  trans first second := ⟨Nat.lt_of_lt_of_le first.1 (Nat.le_of_lt
    (Nat.lt_of_le_of_lt first.2 second.1)), second.2⟩

/-- The code points from the first to the last of a run are those of characters. -/
def isOfCharacters (run : FoldRun) : Bool :=
  Nat.blt 0 run.first && Nat.blt run.last 0xd800
    || Nat.blt 0xdfff run.first && Nat.blt run.last 0x110000

variable {run other : FoldRun} {n : Nat}

theorem has_iff : run.has n = true ↔
    run.first ≤ n ∧ n ≤ run.last ∧ (n - run.first) % run.stride = 0 := by
  simp [has, and_assoc]

theorem not_has_of_isApart (apart : run.isApart other = true) (has : run.has n = true) :
    ¬ other.has n = true := by
  simp only [isApart, Bool.and_eq_true, Bool.or_eq_true, Nat.blt_eq, beq_iff_eq] at apart
  rw [has_iff] at has ⊢
  rintro ⟨atLeast, atMost, inStep⟩
  obtain ⟨first, last, stride⟩ := has
  rcases apart with (before | behind) | ⟨⟨two, steps⟩, odd⟩
  · omega
  · omega
  · rw [two] at inStep
    rcases steps with two' | single
    · rw [two'] at stride
      omega
    · omega

theorem isValidChar_of_has (characters : run.isOfCharacters = true) (has : run.has n = true) :
    0 < n ∧ n.isValidChar := by
  simp only [isOfCharacters, Bool.and_eq_true, Bool.or_eq_true, Nat.blt_eq] at characters
  rw [has_iff] at has
  unfold Nat.isValidChar
  omega

/-- What a code point of a run folds to is of its target. -/
theorem target_has (characters : run.target.isOfCharacters = true) (has : run.has n = true) :
    0 < (n : Int) + run.distance ∧ run.target.has ((n : Int) + run.distance).toNat = true := by
  simp only [isOfCharacters, target, Bool.and_eq_true, Bool.or_eq_true, Nat.blt_eq] at characters
  rw [has_iff] at has ⊢
  obtain ⟨first, last, stride⟩ := has
  have same : ((n : Int) + run.distance).toNat - run.target.first = n - run.first := by
    simp only [target]
    omega
  refine ⟨by omega, ?_, ?_, ?_⟩
  · simp only [target]
    omega
  · simp only [target]
    omega
  · rw [same]
    exact stride

end FoldRun

/-! ## The table -/

theorem foldRuns_ascend : foldRuns.IsChain FoldRun.Precedes := by
  decide +kernel

theorem foldRuns_of_characters :
    (foldRuns.all fun run => run.isOfCharacters && run.target.isOfCharacters) = true := by
  decide +kernel

theorem foldRuns_lead_apart :
    (foldRuns.all fun run => foldRuns.all run.target.isApart) = true := by
  decide +kernel

variable {run : FoldRun} {m n : Nat}

/-- The first run that has a code point is the only one. -/
theorem find?_eq_some_of_has (among : run ∈ foldRuns) (has : run.has n = true) :
    foldRuns.find? (·.has n) = some run := by
  have ascend := List.isChain_iff_pairwise.1 foldRuns_ascend
  obtain ⟨earlier, later, split⟩ := List.append_of_mem among
  rw [split] at ascend ⊢
  have none : earlier.find? (·.has n) = none := by
    refine List.find?_eq_none.2 fun other before has' => ?_
    obtain ⟨apart, -⟩ := (List.pairwise_append.1 ascend).2.2 other before run List.mem_cons_self
    rw [FoldRun.has_iff] at has has'
    omega
  rw [List.find?_append, none, Option.none_or]
  exact List.find?_cons_of_pos has

theorem foldPoint_of_has (among : run ∈ foldRuns) (has : run.has n = true) :
    foldPoint n = ((n : Int) + run.distance).toNat := by
  simp only [foldPoint, find?_eq_some_of_has among has]

theorem foldPoint_of_forall (none : ∀ run ∈ foldRuns, ¬ run.has n = true) : foldPoint n = n := by
  simp only [foldPoint, List.find?_eq_none.2 none]

theorem isOfCharacters_of_mem (among : run ∈ foldRuns) :
    run.isOfCharacters = true ∧ run.target.isOfCharacters = true :=
  (Bool.and_eq_true _ _).mp (List.all_eq_true.1 foldRuns_of_characters run among)

/-- Whatever a code point folds to is in no run. -/
theorem not_has_foldPoint : ∀ run ∈ foldRuns, ¬ run.has (foldPoint n) = true := by
  by_cases folds : ∃ other ∈ foldRuns, other.has n = true
  · obtain ⟨other, among, has⟩ := folds
    rw [foldPoint_of_has among has]
    intro run among'
    have apart := List.all_eq_true.1 (List.all_eq_true.1 foldRuns_lead_apart other among) run among'
    exact FoldRun.not_has_of_isApart apart
      (FoldRun.target_has (isOfCharacters_of_mem among).2 has).2
  · rw [not_exists] at folds
    have none : ∀ run ∈ foldRuns, ¬ run.has n = true := fun run among has =>
      folds run ⟨among, has⟩
    rw [foldPoint_of_forall none]
    exact none

/-- Folding once is enough. -/
theorem foldPoint_foldPoint (n : Nat) : foldPoint (foldPoint n) = foldPoint n :=
  foldPoint_of_forall not_has_foldPoint

/-- Code points are alike when they fold to the same one. -/
theorem mem_alikePoints_iff : m ∈ alikePoints n ↔ foldPoint m = foldPoint n := by
  simp only [alikePoints, List.mem_cons, List.mem_filterMap, Option.ite_none_right_eq_some,
    Option.some.injEq]
  constructor
  · rintro (rfl | ⟨run, among, has, rfl⟩)
    · exact foldPoint_foldPoint n
    · -- No run has the code point zero, so the difference is not negative.
      have positive := (FoldRun.isValidChar_of_has (isOfCharacters_of_mem among).1 has).1
      rw [foldPoint_of_has among has]
      omega
  · intro same
    by_cases folds : ∃ run ∈ foldRuns, run.has m = true
    · obtain ⟨run, among, has⟩ := folds
      have positive := (FoldRun.target_has (isOfCharacters_of_mem among).2 has).1
      rw [foldPoint_of_has among has] at same
      have source : ((foldPoint n : Int) - run.distance).toNat = m := by omega
      exact Or.inr ⟨run, among, source.symm ▸ has, source⟩
    · rw [foldPoint_of_forall fun run among has => folds ⟨run, among, has⟩] at same
      exact Or.inl same

/-- Whatever is alike to a character is the code point of one. -/
theorem isValidChar_of_mem_alikePoints (valid : n.isValidChar) (member : m ∈ alikePoints n) :
    m.isValidChar := by
  simp only [alikePoints, List.mem_cons, List.mem_filterMap, Option.ite_none_right_eq_some,
    Option.some.injEq] at member
  rcases member with rfl | ⟨run, among, has, rfl⟩
  · by_cases folds : ∃ run ∈ foldRuns, run.has n = true
    · obtain ⟨run, among, has⟩ := folds
      rw [foldPoint_of_has among has]
      have characters := (isOfCharacters_of_mem among).2
      exact (FoldRun.isValidChar_of_has characters (FoldRun.target_has characters has).2).2
    · rw [foldPoint_of_forall fun run among has => folds ⟨run, among, has⟩]
      exact valid
  · exact (FoldRun.isValidChar_of_has (isOfCharacters_of_mem among).1 has).2

/-- Characters are alike exactly when they fold to the same one. -/
theorem mem_alike_iff {c d : Char} : c ∈ alike d ↔ foldPoint c.toNat = foldPoint d.toNat := by
  unfold alike
  rw [List.mem_map, ← mem_alikePoints_iff]
  constructor
  · rintro ⟨m, member, rfl⟩
    have valid := isValidChar_of_mem_alikePoints d.valid member
    have same : (Char.ofNat m).toNat = m := by
      rw [Char.ofNat, dif_pos valid]
      rfl
    rwa [same]
  · exact fun member => ⟨c.toNat, member, Char.ofNat_toNat c⟩

end IncidentWatch.Text

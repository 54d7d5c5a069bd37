import IncidentWatch.Proofs.Text.Numerals

/-!
# Texts with blanks around them

Trimming takes off the blanks before and behind a text and nothing else: what is left has no
blanks at its ends, and only one part of a text is such that all around it is blank
(`trim_eq_iff`).
-/

set_option autoImplicit false

namespace IncidentWatch.Text

variable {cs core : List Char}

/-- A text is a core with blanks around it, and the core has no blanks at its ends. -/
structure Surrounds (cs core : List Char) : Prop where
  split : ∃ before after, cs = before ++ core ++ after ∧
    (∀ c ∈ before, isBlank c = true) ∧ ∀ c ∈ after, isBlank c = true
  first : ∀ c ∈ core.head?, isBlank c = false
  last : ∀ c ∈ core.getLast?, isBlank c = false

theorem trim_of_surrounds (around : Surrounds cs core) : trim cs = core := by
  obtain ⟨⟨before, after, rfl, blankBefore, blankAfter⟩, first, last⟩ := around
  cases core with
  | nil =>
      have blank : ∀ c ∈ before ++ [] ++ after, isBlank c = true := by
        simpa using fun c => Or.rec (blankBefore c) (blankAfter c)
      rw [trim, trimStart, List.dropWhile_eq_nil_iff.2 blank]
      rfl
  | cons c core =>
      have start : trimStart (before ++ c :: core ++ after) = c :: core ++ after := by
        rw [trimStart, List.append_assoc]
        exact dropWhile_append_of_stops blankBefore (by simpa using first)
      have stop : trimEnd (c :: core ++ after) = c :: core := by
        rw [trimEnd, List.reverse_append,
          dropWhile_append_of_stops (by simpa using blankAfter) (by rwa [List.head?_reverse]),
          List.reverse_reverse]
      rw [trim, start, stop]

theorem surrounds_trim (cs : List Char) : Surrounds cs (trim cs) where
  split := by
    refine ⟨cs.takeWhile isBlank, ((trimStart cs).reverse.takeWhile isBlank).reverse, ?_,
      fun c => List.mem_takeWhile_imp, fun c member => ?_⟩
    · rw [List.append_assoc, trim, trimEnd, ← List.reverse_append, List.takeWhile_append_dropWhile,
        List.reverse_reverse, trimStart, List.takeWhile_append_dropWhile]
    · exact List.mem_takeWhile_imp (List.mem_reverse.1 member)
  first := by
    -- What is left of a text when its end is taken off starts as the text does.
    intro c first
    obtain ⟨rest, same⟩ : trim cs <+: trimStart cs := by
      rw [trim, trimEnd, ← List.reverse_suffix, List.reverse_reverse]
      exact List.dropWhile_suffix _
    obtain ⟨others, left⟩ := List.head?_eq_some_iff.1 first
    exact head?_dropWhile_eq_false isBlank cs c (by rw [← trimStart, ← same, left]; rfl)
  last := by
    rw [trim, trimEnd, List.getLast?_reverse]
    exact head?_dropWhile_eq_false isBlank _

/-- Trimming finds the core of a text, and a text has no other. -/
theorem trim_eq_iff : trim cs = core ↔ Surrounds cs core :=
  ⟨fun trimmed => trimmed ▸ surrounds_trim cs, trim_of_surrounds⟩

/-- A text without blanks stays as it is. -/
theorem trim_eq_self (unblank : ∀ c ∈ cs, isBlank c = false) : trim cs = cs :=
  trim_of_surrounds ⟨⟨[], [], by simp⟩, fun c first => unblank c (List.mem_of_mem_head? first),
    fun c last => unblank c (List.mem_of_mem_getLast? last)⟩

end IncidentWatch.Text

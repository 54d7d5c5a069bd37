import Mathlib.Data.List.Basic

/-!
# Lines of a text

A text is cut at its line breaks. No line holds a break (`not_mem_of_mem_lines`), every line is
a part of the text, and a part of the text without a break lies in one of the lines
(`infix_iff_exists_line`).
-/

set_option autoImplicit false

namespace IncidentWatch.Text

/-- The lines of a text, without the breaks between them. -/
def lines (text : List Char) : List (List Char) :=
  text.splitOn '\n'

variable {text part line : List Char} {c : Char}

theorem lines_break (text : List Char) : lines ('\n' :: text) = [] :: lines text := by
  simp [lines, List.splitOn_cons_eq_if_modifyHead]

theorem lines_cons {c : Char} (inLine : c ≠ '\n') {first : List Char} {others : List (List Char)}
    (split : lines text = first :: others) : lines (c :: text) = (c :: first) :: others := by
  unfold lines at split ⊢
  rw [List.splitOn_cons_eq_if_modifyHead, split, if_neg (by simpa using inLine)]
  rfl

theorem exists_lines_eq_cons (text : List Char) : ∃ first others, lines text = first :: others :=
  List.exists_cons_of_ne_nil (List.splitOn_ne_nil '\n' text)

theorem not_mem_of_mem_lines (among : line ∈ lines text) : '\n' ∉ line := by
  induction text generalizing line with
  | nil =>
      obtain rfl := List.mem_singleton.1 among
      exact List.not_mem_nil
  | cons c text inductionHypothesis =>
      obtain ⟨first, others, split⟩ := exists_lines_eq_cons text
      by_cases inLine : c = '\n'
      · subst inLine
        rw [lines_break] at among
        rcases List.mem_cons.1 among with rfl | later
        · exact List.not_mem_nil
        · exact inductionHypothesis later
      · rw [lines_cons inLine split] at among
        rw [split] at inductionHypothesis
        rcases List.mem_cons.1 among with rfl | later
        · have rest := inductionHypothesis List.mem_cons_self
          exact fun member => (List.mem_cons.1 member).elim (inLine ·.symm) rest
        · exact inductionHypothesis (List.mem_cons_of_mem _ later)

/-- The first line is the start of the text, and the others are parts of it. -/
theorem prefix_and_infix_of_lines {first : List Char} {others : List (List Char)}
    (split : lines text = first :: others) :
    first <+: text ∧ ∀ line ∈ others, line <:+: text := by
  induction text generalizing first others with
  | nil =>
      cases split
      exact ⟨List.prefix_rfl, fun _ among => nomatch among⟩
  | cons c text inductionHypothesis =>
      obtain ⟨first', others', split'⟩ := exists_lines_eq_cons text
      obtain ⟨start, parts⟩ := inductionHypothesis split'
      by_cases inLine : c = '\n'
      · subst inLine
        rw [lines_break, split'] at split
        cases split
        refine ⟨List.nil_prefix, fun line among => ?_⟩
        rcases List.mem_cons.1 among with rfl | later
        · exact List.infix_cons start.isInfix
        · exact List.infix_cons (parts line later)
      · rw [lines_cons inLine split'] at split
        cases split
        exact ⟨List.cons_prefix_cons.2 ⟨rfl, start⟩, fun line among =>
          List.infix_cons (parts line among)⟩

theorem infix_of_mem_lines (among : line ∈ lines text) : line <:+: text := by
  obtain ⟨first, others, split⟩ := exists_lines_eq_cons text
  obtain ⟨start, parts⟩ := prefix_and_infix_of_lines split
  rw [split] at among
  rcases List.mem_cons.1 among with rfl | later
  · exact start.isInfix
  · exact parts line later

/-- A start of the text without a break is a start of the first line. -/
theorem prefix_first_line (inLine : '\n' ∉ part) (start : part <+: text) {first : List Char}
    {others : List (List Char)} (split : lines text = first :: others) : part <+: first := by
  induction part generalizing text first others with
  | nil => exact List.nil_prefix
  | cons c part inductionHypothesis =>
      obtain ⟨rest, rfl⟩ := start
      rw [List.mem_cons, not_or] at inLine
      obtain ⟨first', others', split'⟩ := exists_lines_eq_cons (part ++ rest)
      rw [List.cons_append, lines_cons (inLine.1 ·.symm) split'] at split
      cases split
      exact List.cons_prefix_cons.2
        ⟨rfl, inductionHypothesis inLine.2 (List.prefix_append part rest) split'⟩

/-- A part of a text without a break is a part of one of its lines. -/
theorem infix_iff_exists_line (inLine : '\n' ∉ part) :
    part <:+: text ↔ ∃ line ∈ lines text, part <:+: line := by
  refine ⟨fun within => ?_, fun ⟨line, among, within⟩ => within.trans (infix_of_mem_lines among)⟩
  induction text with
  | nil => exact ⟨[], List.mem_singleton_self [], within⟩
  | cons c text inductionHypothesis =>
      rcases List.infix_cons_iff.1 within with start | later
      · obtain ⟨first, others, split⟩ := exists_lines_eq_cons (c :: text)
        refine ⟨first, split ▸ List.mem_cons_self, ?_⟩
        exact (prefix_first_line inLine start split).isInfix
      · obtain ⟨line, among, within'⟩ := inductionHypothesis later
        by_cases breaks : c = '\n'
        · subst breaks
          exact ⟨line, lines_break text ▸ List.mem_cons_of_mem _ among, within'⟩
        · obtain ⟨first, others, split⟩ := exists_lines_eq_cons text
          rw [lines_cons breaks split]
          rw [split] at among
          rcases List.mem_cons.1 among with rfl | other
          · exact ⟨c :: line, List.mem_cons_self, List.infix_cons within'⟩
          · exact ⟨line, List.mem_cons_of_mem _ other, within'⟩

end IncidentWatch.Text

import IncidentWatch.Pattern.Basic
import Mathlib.Data.List.Basic

/-!
# Searching for a pattern

What is left of a pattern after one character matches what is left of the text
(`matches_cons_iff`). The search goes through a text once and keeps all that is left of the
matches that began so far, so by induction on the text it finds a match exactly where there is
one (`occursFrom_iff`). In the end it says whether some part of the text matches at its place
(`occursIn_iff`).
-/

set_option autoImplicit false

namespace IncidentWatch.Pattern

variable {p q : Pattern} {before after : Option Char} {c : Char} {text : List Char}

/-! ## One character at a time -/

/-- The last character of a text that begins with `c`. -/
theorem getLast?_cons_or (c : Char) (text : List Char) (before : Option Char) :
    (c :: text).getLast?.or before = text.getLast?.or (some c) := by
  cases text with
  | nil => rfl
  | cons d rest =>
      rw [List.getLast?_cons_cons, List.getLast?_eq_some_getLast (List.cons_ne_nil d rest)]
      rfl

theorem matchesEmpty_iff : p.matchesEmpty before after = true ↔ Matches p before [] after := by
  constructor
  · intro holds
    induction p with
    | never => cases holds
    | empty => exact .empty
    | one s => cases holds
    | «at» place => exact .at holds
    | seq p q ihp ihq =>
        obtain ⟨left, right⟩ := (Bool.and_eq_true _ _).mp holds
        exact .seq (s := []) (t := []) (ihp left) (ihq right)
    | either p q ihp ihq =>
        rcases (Bool.or_eq_true _ _).mp holds with left | right
        · exact .left (ihp left)
        · exact .right (ihq right)
    | many p ih => exact .none
  · intro found
    generalize nothing : ([] : List Char) = text at found
    induction found with
    | empty => rfl
    | one has => cases nothing
    | «at» holds => exact holds
    | @seq p q s t before after hp hq ihp ihq =>
        obtain ⟨rfl, rfl⟩ := List.append_eq_nil_iff.1 nothing.symm
        exact (Bool.and_eq_true _ _).mpr ⟨ihp rfl, ihq rfl⟩
    | left found ih => exact (Bool.or_eq_true _ _).mpr (Or.inl (ih nothing))
    | right found ih => exact (Bool.or_eq_true _ _).mpr (Or.inr (ih nothing))
    | none => rfl
    | more hp hq ihp ihq => rfl

/-- What is left of a sequence: of its first part, with the second to come, or of the second
where the first matches the empty text. -/
theorem mem_step_seq {r : Pattern} : r ∈ (seq p q).step before c ↔
    (∃ p' ∈ p.step before c, r = .seq p' q) ∨
      Matches p before [] (some c) ∧ r ∈ q.step before c := by
  rw [← matchesEmpty_iff]
  simp only [step, List.mem_append, List.mem_map, eq_comm (a := r)]
  refine or_congr_right ?_
  split <;> simp_all

/-- A match of what is left is, with the character in front, a match of the pattern. -/
theorem matches_of_step {r : Pattern} (left : r ∈ p.step before c)
    (found : Matches r (some c) text after) : Matches p before (c :: text) after := by
  induction p generalizing r text after with
  | never => cases left
  | empty => cases left
  | one s =>
      simp only [step] at left
      split at left
      · rename_i has
        obtain rfl := List.mem_singleton.1 left
        cases found
        exact .one has
      · cases left
  | «at» place => cases left
  | seq p q ihp ihq =>
      rcases mem_step_seq.1 left with ⟨p', left', rfl⟩ | ⟨skips, left'⟩
      · cases found with
        | @seq _ _ s t _ _ hp hq =>
            refine Matches.seq (s := c :: s) (ihp left' hp) ?_
            rw [getLast?_cons_or]
            exact hq
      · exact Matches.seq (s := []) (t := c :: text) skips (ihq left' found)
  | either p q ihp ihq =>
      rcases List.mem_append.1 left with left' | left'
      · exact .left (ihp left' found)
      · exact .right (ihq left' found)
  | many p ih =>
      obtain ⟨p', left', rfl⟩ := List.mem_map.1 left
      cases found with
      | @seq _ _ s t _ _ hp hq =>
          refine Matches.more (s := c :: s) (ih left' hp) ?_
          rw [getLast?_cons_or]
          exact hq

/-- A match that takes a character is a match of what is left after that character. -/
theorem step_of_matches (found : Matches p before (c :: text) after) :
    ∃ r ∈ p.step before c, Matches r (some c) text after := by
  generalize begins : c :: text = all at found
  -- By induction on the match, for a repetition may begin with matches of the empty text.
  induction found generalizing text with
  | empty => cases begins
  | @one s d before after has =>
      obtain ⟨rfl, rfl⟩ := List.cons.inj begins
      exact ⟨.empty, by simp [step, has], .empty⟩
  | «at» holds => cases begins
  | @seq p q s t before after hp hq ihp ihq =>
      cases s with
      | nil =>
          obtain rfl : c :: text = t := begins
          obtain ⟨r, left, found⟩ := ihq rfl
          exact ⟨r, mem_step_seq.2 (Or.inr ⟨hp, left⟩), found⟩
      | cons d s =>
          obtain ⟨rfl, rfl⟩ := List.cons.inj begins
          obtain ⟨p', left, found⟩ := ihp rfl
          rw [getLast?_cons_or] at hq
          exact ⟨.seq p' q, mem_step_seq.2 (Or.inl ⟨p', left, rfl⟩), .seq found hq⟩
  | left found ih =>
      obtain ⟨r, left, found'⟩ := ih begins
      exact ⟨r, List.mem_append_left _ left, found'⟩
  | right found ih =>
      obtain ⟨r, left, found'⟩ := ih begins
      exact ⟨r, List.mem_append_right _ left, found'⟩
  | none => cases begins
  | @more p s t before after hp hq ihp ihq =>
      cases s with
      | nil => exact ihq begins
      | cons d s =>
          obtain ⟨rfl, rfl⟩ := List.cons.inj begins
          obtain ⟨p', left, found⟩ := ihp rfl
          rw [getLast?_cons_or] at hq
          exact ⟨.seq p' (.many p), List.mem_map.2 ⟨p', left, rfl⟩, .seq found hq⟩

theorem matches_cons_iff : Matches p before (c :: text) after ↔
    ∃ r ∈ p.step before c, Matches r (some c) text after :=
  ⟨step_of_matches, fun ⟨_, left, found⟩ => matches_of_step left found⟩

/-! ## Anywhere in a text -/

/-- A pattern matches a part at the start of a text. -/
def Starts (p : Pattern) (before : Option Char) (text : List Char) : Prop :=
  ∃ part rest, text = part ++ rest ∧ Matches p before part rest.head?

/-- A pattern matches some part of a text. -/
def Occurs (p : Pattern) (before : Option Char) (text : List Char) : Prop :=
  ∃ left right, text = left ++ right ∧ p.Starts (left.getLast?.or before) right

theorem starts_nil_iff : p.Starts before [] ↔ p.matchesEmpty before none = true := by
  rw [matchesEmpty_iff]
  constructor
  · rintro ⟨part, rest, nothing, found⟩
    obtain ⟨rfl, rfl⟩ := List.append_eq_nil_iff.1 nothing.symm
    exact found
  · exact fun found => ⟨[], [], rfl, found⟩

theorem starts_cons_iff : p.Starts before (c :: text) ↔
    p.matchesEmpty before (some c) = true ∨ ∃ r ∈ p.step before c, r.Starts (some c) text := by
  rw [matchesEmpty_iff]
  constructor
  · rintro ⟨part, rest, split, found⟩
    cases part with
    | nil =>
        obtain rfl : c :: text = rest := split
        exact Or.inl found
    | cons d part =>
        obtain ⟨rfl, rfl⟩ := List.cons.inj split
        obtain ⟨r, left, found'⟩ := matches_cons_iff.1 found
        exact Or.inr ⟨r, left, part, rest, rfl, found'⟩
  · rintro (found | ⟨r, left, part, rest, rfl, found⟩)
    · exact ⟨[], c :: text, rfl, found⟩
    · exact ⟨c :: part, rest, rfl, matches_cons_iff.2 ⟨r, left, found⟩⟩

theorem occurs_nil_iff : p.Occurs before [] ↔ p.Starts before [] := by
  constructor
  · rintro ⟨left, right, nothing, starts⟩
    obtain ⟨rfl, rfl⟩ := List.append_eq_nil_iff.1 nothing.symm
    exact starts
  · exact fun starts => ⟨[], [], rfl, starts⟩

theorem occurs_cons_iff : p.Occurs before (c :: text) ↔
    p.Starts before (c :: text) ∨ p.Occurs (some c) text := by
  constructor
  · rintro ⟨left, right, split, starts⟩
    cases left with
    | nil =>
        obtain rfl : c :: text = right := split
        exact Or.inl starts
    | cons d left =>
        obtain ⟨rfl, rfl⟩ := List.cons.inj split
        rw [getLast?_cons_or] at starts
        exact Or.inr ⟨left, right, rfl, starts⟩
  · rintro (starts | ⟨left, right, rfl, starts⟩)
    · exact ⟨[], c :: text, rfl, starts⟩
    · refine ⟨c :: left, right, rfl, ?_⟩
      rw [getLast?_cons_or]
      exact starts

/-- The search finds a match of an open pattern here or of the pattern itself from here on. -/
theorem occursFrom_iff {live : List Pattern} : p.occursFrom live before text = true ↔
    (∃ q ∈ live, q.Starts before text) ∨ p.Occurs before text := by
  induction text generalizing live before with
  | nil =>
      simp only [occursFrom, List.any_eq_true, List.exists_mem_cons_iff, ← starts_nil_iff,
        occurs_nil_iff]
      exact or_comm
  | cons c rest ih =>
      simp only [occursFrom, Bool.or_eq_true, List.any_eq_true, ih, List.mem_eraseDups,
        List.mem_flatMap]
      rw [occurs_cons_iff]
      have goesOn : (∃ q, (∃ r ∈ p :: live, q ∈ r.step before c) ∧ q.Starts (some c) rest) ↔
          ∃ r ∈ p :: live, ∃ q ∈ r.step before c, q.Starts (some c) rest := by
        constructor
        · rintro ⟨q, ⟨r, among, left⟩, starts⟩
          exact ⟨r, among, q, left, starts⟩
        · rintro ⟨r, among, q, left, starts⟩
          exact ⟨q, ⟨r, among, left⟩, starts⟩
      have here : (∃ r ∈ p :: live, r.Starts before (c :: rest)) ↔
          (∃ r ∈ p :: live, r.matchesEmpty before (some c) = true) ∨
            ∃ r ∈ p :: live, ∃ q ∈ r.step before c, q.Starts (some c) rest := by
        simp only [starts_cons_iff, and_or_left, exists_or]
      rw [goesOn, ← or_assoc, ← here, List.exists_mem_cons_iff, or_comm (a := p.Starts _ _),
        or_assoc]

/-- A pattern occurs in a text when some part of the text matches at its place. -/
theorem occursIn_iff {s : String} : p.occursIn s = true ↔ p.Occurs none s.toList := by
  unfold occursIn
  rw [occursFrom_iff]
  simp

end IncidentWatch.Pattern

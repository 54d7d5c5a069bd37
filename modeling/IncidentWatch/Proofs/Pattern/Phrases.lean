import IncidentWatch.Proofs.Pattern.Search
import IncidentWatch.Proofs.Text.Folding
import IncidentWatch.Proofs.Text.Lines

/-!
# Phrases

A text mentions a phrase when the folded phrase is a part of the folded text
(`Text.Mentions`). A pattern of characters whose case is ignored finds exactly the texts that
mention its phrase (`occurs_phrase_iff`), and one of two such phrases with anything but a line
break between them exactly those of which some line mentions both, one behind the other
(`occurs_gap_iff`). That is how patterns of phrases can be told without patterns.
-/

set_option autoImplicit false

namespace IncidentWatch

namespace Text

/-- A text as it is when letter case is ignored. -/
def folded (text : List Char) : List Nat :=
  text.map fun c => foldPoint c.toNat

/-- A text contains a phrase, in whatever case. -/
def Mentions (phrase : String) (text : List Char) : Prop :=
  folded phrase.toList <:+: folded text

/-- A text contains a phrase and, at or after its end, another one. -/
def MentionsInTurn (first second : String) (text : List Char) : Prop :=
  ∃ place ≤ text.length, Mentions first (text.take place) ∧ Mentions second (text.drop place)

instance (phrase : String) (text : List Char) : Decidable (Mentions phrase text) :=
  inferInstanceAs (Decidable (folded phrase.toList <:+: folded text))

instance (first second : String) (text : List Char) :
    Decidable (MentionsInTurn first second text) :=
  inferInstanceAs (Decidable (∃ place ≤ text.length, _ ∧ _))

variable {phrase first second : String} {text part : List Char}

theorem folded_append (s t : List Char) : folded (s ++ t) = folded s ++ folded t :=
  List.map_append

/-- A phrase is mentioned where some part of the text folds to the same. -/
theorem mentions_iff : Mentions phrase text ↔
    ∃ left part right, text = left ++ part ++ right ∧ folded part = folded phrase.toList := by
  constructor
  · rintro ⟨left, right, split⟩
    obtain ⟨start, right', rfl, starts, -⟩ := List.map_eq_append_iff.1 split.symm
    obtain ⟨left', part, rfl, -, same⟩ := List.map_eq_append_iff.1 starts
    exact ⟨left', part, right', rfl, same⟩
  · rintro ⟨left, part, right, rfl, same⟩
    refine ⟨folded left, folded right, ?_⟩
    rw [← same, ← folded_append, ← folded_append]

theorem mentionsInTurn_iff : MentionsInTurn first second text ↔
    ∃ left right, text = left ++ right ∧ Mentions first left ∧ Mentions second right := by
  constructor
  · rintro ⟨place, -, mentions, mentions'⟩
    exact ⟨text.take place, text.drop place, (List.take_append_drop place text).symm,
      mentions, mentions'⟩
  · rintro ⟨left, right, rfl, mentions, mentions'⟩
    refine ⟨left.length, by simp, ?_, ?_⟩
    · rwa [List.take_left]
    · rwa [List.drop_left]

/-- What folds like a phrase has a line break only if the phrase has. -/
theorem break_not_mem_of_folded (inLine : '\n' ∉ phrase.toList)
    (same : folded part = folded phrase.toList) : '\n' ∉ part := by
  intro member
  have folds : foldPoint '\n'.toNat ∈ folded phrase.toList :=
    same ▸ List.mem_map_of_mem (f := fun c : Char => foldPoint c.toNat) member
  obtain ⟨c, among, alike⟩ := List.mem_map.1 folds
  have breaks : Text.alike '\n' = ['\n'] := by decide +kernel
  have char := mem_alike_iff.2 alike
  rw [breaks, List.mem_singleton] at char
  exact inLine (char ▸ among)

end Text

namespace Pattern

open Text

variable {p : Pattern} {ps qs : List Pattern} {before after : Option Char} {text : List Char}

/-! ## Sequences and choices -/

theorem matches_empty_iff : Matches .empty before text after ↔ text = [] := by
  constructor
  · rintro ⟨⟩
    rfl
  · rintro rfl
    exact .empty

theorem matches_one_iff {s : CharSet} :
    Matches (.one s) before text after ↔ ∃ c, text = [c] ∧ s.has c = true := by
  constructor
  · rintro ⟨⟩
    exact ⟨_, rfl, ‹_›⟩
  · rintro ⟨c, rfl, has⟩
    exact .one has

theorem matches_seq_iff {q : Pattern} : Matches (.seq p q) before text after ↔
    ∃ s t, text = s ++ t ∧ Matches p before s (t.head?.or after) ∧
      Matches q (s.getLast?.or before) t after := by
  constructor
  · rintro ⟨⟩
    exact ⟨_, _, rfl, ‹_›, ‹_›⟩
  · rintro ⟨s, t, rfl, first, second⟩
    exact .seq first second

theorem matches_sequence_cons : Matches (sequence (p :: ps)) before text after ↔
    ∃ s t, text = s ++ t ∧ Matches p before s (t.head?.or after) ∧
      Matches (sequence ps) (s.getLast?.or before) t after := by
  cases ps with
  | nil =>
      simp only [sequence, matches_empty_iff]
      constructor
      · exact fun found => ⟨text, [], (List.append_nil text).symm, found, rfl⟩
      · rintro ⟨s, t, rfl, found, rfl⟩
        rwa [List.append_nil]
  | cons q rest => exact matches_seq_iff

theorem matches_sequence_append : Matches (sequence (ps ++ qs)) before text after ↔
    ∃ s t, text = s ++ t ∧ Matches (sequence ps) before s (t.head?.or after) ∧
      Matches (sequence qs) (s.getLast?.or before) t after := by
  induction ps generalizing before text with
  | nil =>
      simp only [List.nil_append, sequence, matches_empty_iff]
      constructor
      · exact fun found => ⟨[], text, rfl, rfl, found⟩
      · rintro ⟨s, t, rfl, rfl, found⟩
        exact found
  | cons p rest inductionHypothesis =>
      simp only [List.cons_append, matches_sequence_cons, inductionHypothesis]
      constructor
      · rintro ⟨s, _, rfl, first, t, u, rfl, second, third⟩
        refine ⟨s ++ t, u, (List.append_assoc s t u).symm, ⟨s, t, rfl, ?_, second⟩, ?_⟩
        · rwa [List.head?_append, Option.or_assoc] at first
        · rwa [List.getLast?_append, Option.or_assoc]
      · rintro ⟨_, u, rfl, ⟨s, t, rfl, first, second⟩, third⟩
        refine ⟨s, t ++ u, List.append_assoc s t u, ?_, t, u, rfl, second, ?_⟩
        · rwa [List.head?_append, Option.or_assoc]
        · rwa [List.getLast?_append, Option.or_assoc] at third

theorem matches_choice_iff :
    Matches (choice ps) before text after ↔ ∃ p ∈ ps, Matches p before text after := by
  induction ps with
  | nil => exact ⟨nofun, nofun⟩
  | cons p rest inductionHypothesis =>
      rw [List.exists_mem_cons_iff, ← inductionHypothesis]
      cases rest with
      | nil => exact ⟨Or.inl, fun found => found.elim id nofun⟩
      | cons q rest =>
          constructor
          · intro found
            cases found with
            | left found => exact Or.inl found
            | right found => exact Or.inr found
          · exact fun found => found.elim .left .right

theorem occurs_choice_iff : (choice ps).Occurs before text ↔ ∃ p ∈ ps, p.Occurs before text := by
  constructor
  · rintro ⟨left, right, split, part, rest, split', found⟩
    obtain ⟨p, among, found'⟩ := matches_choice_iff.1 found
    exact ⟨p, among, left, right, split, part, rest, split', found'⟩
  · rintro ⟨p, among, left, right, split, part, rest, split', found⟩
    exact ⟨left, right, split, part, rest, split', matches_choice_iff.2 ⟨p, among, found⟩⟩

/-! ## Phrases -/

/-- The characters of a phrase, each in whatever case. -/
def phrase (s : String) : List Pattern :=
  s.toList.map fun c => .one (.folded (.single c))

/-- Any text in a line. -/
def gap : Pattern :=
  .many (.one (.compl (.single '\n')))

/-- A character in whatever case is any that folds to the same one. -/
theorem has_folded_single {c d : Char} : (CharSet.folded (.single c)).has d = true ↔
    foldPoint d.toNat = foldPoint c.toNat := by
  simp only [CharSet.has, List.any_eq_true, CharSet.has_single]
  rw [← eq_comm, ← mem_alike_iff]
  constructor
  · rintro ⟨_, member, rfl⟩
    exact member
  · exact fun member => ⟨c, member, rfl⟩

/-- Whatever folds like a phrase matches it, wherever it stands. -/
theorem matches_phrase_iff {s : String} :
    Matches (sequence (phrase s)) before text after ↔ folded text = folded s.toList := by
  unfold phrase
  induction s.toList generalizing before text with
  | nil =>
      simp only [List.map_nil, sequence, matches_empty_iff]
      exact List.map_eq_nil_iff.symm
  | cons c rest inductionHypothesis =>
      rw [List.map_cons, matches_sequence_cons]
      simp only [inductionHypothesis, matches_one_iff, has_folded_single]
      constructor
      · rintro ⟨_, t, rfl, ⟨d, rfl, first⟩, others⟩
        rw [folded_append, others]
        exact congrArg (· :: folded rest) first
      · intro same
        obtain ⟨d, t, rfl, first, others⟩ := List.map_eq_cons_iff.1 same
        exact ⟨[d], t, rfl, ⟨d, rfl, first⟩, others⟩

theorem matches_gap_iff : Matches gap before text after ↔ '\n' ∉ text := by
  have inLine : ∀ c : Char, (CharSet.compl (.single '\n')).has c = true ↔ c ≠ '\n' := by
    intro c
    rw [CharSet.has, Bool.not_eq_true', ← Bool.not_eq_true, CharSet.has_single]
  constructor
  · intro found
    unfold gap at found
    generalize many : Pattern.many _ = p at found
    induction found with
    | none => exact List.not_mem_nil
    | more first others _ inductionHypothesis =>
        cases many
        obtain ⟨c, rfl, has⟩ := matches_one_iff.1 first
        have rest := inductionHypothesis rfl
        exact fun member => (List.mem_cons.1 member).elim (((inLine c).1 has) ·.symm) rest
    | _ => cases many
  · intro within
    induction text generalizing before with
    | nil => exact .none
    | cons c text inductionHypothesis =>
        rw [List.mem_cons, not_or] at within
        have first : Matches (.one (.compl (.single '\n'))) before [c] (text.head?.or after) :=
          .one ((inLine c).2 (within.1 ·.symm))
        exact .more first (inductionHypothesis within.2)

/-- A pattern that asks nothing of its place occurs where some part of the text matches. -/
theorem occurs_iff_of_places {Q : List Char → Prop}
    (places : ∀ {before text after}, Matches p before text after ↔ Q text) :
    p.Occurs before text ↔ ∃ left part right, text = left ++ part ++ right ∧ Q part := by
  constructor
  · rintro ⟨left, _, rfl, part, right, rfl, found⟩
    exact ⟨left, part, right, (List.append_assoc left part right).symm, places.1 found⟩
  · rintro ⟨left, part, right, rfl, holds⟩
    exact ⟨left, part ++ right, List.append_assoc left part right, part, right, rfl,
      places.2 holds⟩

/-- A phrase occurs in the texts that mention it. -/
theorem occurs_phrase_iff {s : String} :
    (sequence (phrase s)).Occurs before text ↔ Mentions s text :=
  (occurs_iff_of_places matches_phrase_iff).trans mentions_iff.symm

theorem matches_apart_iff {first second : String} :
    Matches (sequence (phrase first ++ gap :: phrase second)) before text after ↔
      ∃ s between t, text = s ++ (between ++ t) ∧ folded s = folded first.toList ∧
        '\n' ∉ between ∧ folded t = folded second.toList := by
  rw [matches_sequence_append]
  simp only [matches_sequence_cons, matches_phrase_iff, matches_gap_iff]
  constructor
  · rintro ⟨s, _, rfl, same, between, t, rfl, inLine, same'⟩
    exact ⟨s, between, t, rfl, same, inLine, same'⟩
  · rintro ⟨s, between, t, rfl, same, inLine, same'⟩
    exact ⟨s, between ++ t, rfl, same, between, t, rfl, inLine, same'⟩

/-- Two phrases with a gap between them occur in the texts of which some line mentions them in
turn. -/
theorem occurs_gap_iff {first second : String} (inLine : '\n' ∉ first.toList)
    (inLine' : '\n' ∉ second.toList) :
    (sequence (phrase first ++ gap :: phrase second)).Occurs before text ↔
      ∃ line ∈ lines text, MentionsInTurn first second line := by
  rw [occurs_iff_of_places matches_apart_iff]
  constructor
  · rintro ⟨left, _, right, split, s, between, t, rfl, same, unbroken, same'⟩
    have within : '\n' ∉ s ++ (between ++ t) := by
      simp only [List.mem_append, not_or]
      exact ⟨break_not_mem_of_folded inLine same, unbroken, break_not_mem_of_folded inLine' same'⟩
    -- What lies before and behind the match in its line is left to the two phrases.
    obtain ⟨line, among, start, rest, rfl⟩ :=
      (infix_iff_exists_line within).1 ⟨left, right, split.symm⟩
    refine ⟨_, among, mentionsInTurn_iff.2 ⟨start ++ s, between ++ t ++ rest, by simp, ?_, ?_⟩⟩
    · exact mentions_iff.2 ⟨start, s, [], by simp, same⟩
    · exact mentions_iff.2 ⟨between, t, rest, rfl, same'⟩
  · rintro ⟨line, among, inTurn⟩
    obtain ⟨start, rest, rfl, mentions, mentions'⟩ := mentionsInTurn_iff.1 inTurn
    obtain ⟨start, s, between, rfl, same⟩ := mentions_iff.1 mentions
    obtain ⟨between', t, rest, rfl, same'⟩ := mentions_iff.1 mentions'
    obtain ⟨left, right, rfl⟩ := infix_of_mem_lines among
    have unbroken := not_mem_of_mem_lines among
    simp only [List.mem_append, not_or] at unbroken
    refine ⟨left ++ start, s ++ (between ++ between' ++ t), rest ++ right, by simp,
      s, between ++ between', t, rfl, same, ?_, same'⟩
    rw [List.mem_append, not_or]
    exact ⟨unbroken.1.2, unbroken.2.1.1⟩

end Pattern

end IncidentWatch

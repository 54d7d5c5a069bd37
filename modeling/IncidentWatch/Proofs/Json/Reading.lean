import Mathlib.Tactic.IntervalCases
import IncidentWatch.Json.Decode
import IncidentWatch.Proofs.Text.Numerals

/-!
# Reading what was written

The reader is more generous than the writer: it takes blanks, escapes in capitals and numbers with
a fraction, none of which is ever written. What it makes of a written text is shown here by the
parts of a text: a character of a string is read as it was written (`readPart_writeChar`), and so
is a machine word (`readUnsigned_decimal`), provided that no digit, point or exponent follows.

Of a value it is said once that it is read back (`ReadsBack`), with what it may start with, since a
list that starts with a closing bracket would be taken for an empty one, and with how much fuel is
enough, which is the length of its text. A list is read back when its items are, an object when the
values of its members are, and so every value made of texts, truth values and 64-bit integers is.
-/

set_option autoImplicit false

namespace IncidentWatch.Json

open Text

/-! ## Strings -/

theorem hexValue?_hexDigit {n : Nat} (small : n < 16) : hexValue? (hexDigit n) = some n := by
  interval_cases n <;> rfl

/-- The escape of a control ends in its two hexadecimal digits. -/
theorem unitEscape_of_lt {n : Nat} (control : n < 32) :
    unitEscape n = ['\\', 'u', '0', '0', hexDigit (n / 16), hexDigit (n % 16)] := by
  unfold unitEscape
  by_cases single : n < 16
  · rw [hexadecimal, if_pos single, Nat.div_eq_of_lt single, Nat.mod_eq_of_lt single]
    rfl
  · rw [hexadecimal, if_neg single, hexadecimal, if_pos (by omega)]
    rfl

theorem readPart_unitEscape {n : Nat} (control : n < 32) (rest : List Char) :
    readPart (unitEscape n ++ rest) = some (.char (Char.ofNat n), rest) := by
  have high : hexValue? (hexDigit (n / 16)) = some (n / 16) := hexValue?_hexDigit (by omega)
  have low : hexValue? (hexDigit (n % 16)) = some (n % 16) := hexValue?_hexDigit (by omega)
  have zero : hexValue? '0' = some 0 := rfl
  have whole : ((0 * 16 + 0) * 16 + n / 16) * 16 + n % 16 = n := by omega
  have noSurrogate : ¬ (0xd800 ≤ n ∧ n ≤ 0xdbff) ∧ ¬ (0xdc00 ≤ n ∧ n ≤ 0xdfff) := by omega
  rw [unitEscape_of_lt control]
  show readEscape ('u' :: '0' :: '0' :: hexDigit (n / 16) :: hexDigit (n % 16) :: rest) = _
  simp only [readEscape, hexUnit?, high, low, zero, Option.bind_eq_bind, Option.bind_some,
    whole, Option.pure_def, if_neg noSurrogate.1, if_neg noSurrogate.2]

/-- A character is read as it was written. -/
theorem readPart_writeChar (c : Char) (rest : List Char) :
    readPart (writeChar c ++ rest) = some (.char c, rest) := by
  unfold writeChar
  split_ifs with quote backslash backspace formFeed newline return_ tab control
  · subst quote; rfl
  · subst backslash; rfl
  · subst backspace; rfl
  · subst formFeed; rfl
  · subst newline; rfl
  · subst return_; rfl
  · subst tab; rfl
  · rw [readPart_unitEscape control, Char.ofNat_toNat]
  · rw [List.singleton_append, readPart.eq_def]
    split
    · rename_i more same
      exact absurd (List.cons.inj same).1 quote
    · rename_i more same
      exact absurd (List.cons.inj same).1 backslash
    · rename_i first more _ _ same
      obtain ⟨rfl, rfl⟩ := List.cons.inj same
      rw [if_neg control]
    · rename_i same
      cases same

theorem length_pos_writeChar (c : Char) : 0 < (writeChar c).length := by
  unfold writeChar unitEscape
  split_ifs <;> simp

/-- The characters of a string are read up to its closing quote. -/
theorem readText_write (text rest : List Char) {fuel : Nat} (enough : text.length < fuel) :
    readText fuel (text.flatMap writeChar ++ '"' :: rest) = some (some text, rest) := by
  induction text generalizing fuel with
  | nil =>
    obtain ⟨fuel, rfl⟩ : ∃ f, fuel = f + 1 := ⟨fuel - 1, by simp at enough; omega⟩
    rfl
  | cons c text inductionHypothesis =>
    obtain ⟨fuel, rfl⟩ : ∃ f, fuel = f + 1 := ⟨fuel - 1, by simp at enough; omega⟩
    have later := inductionHypothesis (by simpa using enough : text.length < fuel)
    rw [List.flatMap_cons, List.append_assoc, readText, readPart_writeChar]
    simp only [later, Option.map_some]

theorem length_le_flatMap_writeChar (text : List Char) :
    text.length ≤ (text.flatMap writeChar).length := by
  induction text with
  | nil => exact Nat.le_refl 0
  | cons c text inductionHypothesis =>
    have := length_pos_writeChar c
    rw [List.flatMap_cons, List.length_append, List.length_cons]
    omega

/-! ## Numbers -/

/-- What follows is no part of a number before it. -/
def StopsNumbers (rest : List Char) : Prop :=
  ∀ c ∈ rest.head?, isDigit c = false ∧ c ≠ '.' ∧ c ≠ 'e' ∧ c ≠ 'E'

theorem StopsNumbers.digits {rest : List Char} (stops : StopsNumbers rest) : StopsDigits rest :=
  fun c first => (stops c first).1

/-- The digits of a machine word are all taken. -/
theorem takeWord_of_lt {digits : List Char} (run : ∀ c ∈ digits, isDigit c = true) (start : Nat)
    (fits : valueFrom start digits < 18446744073709551616) :
    takeWord start digits = (valueFrom start digits, digits.length, []) := by
  induction digits generalizing start with
  | nil => rfl
  | cons c digits inductionHypothesis =>
    have fits' : valueFrom (10 * start + digitValue c) digits < 18446744073709551616 := fits
    have next : start * 10 + digitValue c = 10 * start + digitValue c := by omega
    have prefixFits : 10 * start + digitValue c < 18446744073709551616 :=
      Nat.lt_of_le_of_lt (le_valueFrom _ digits) fits'
    rw [takeWord, if_pos (run c List.mem_cons_self)]
    dsimp only
    rw [next, if_pos prefixFits,
      inductionHypothesis (fun d later => run d (List.mem_cons_of_mem c later)) _ fits']
    rfl

/-- A machine word is read as it was written. -/
theorem readUnsigned_decimal (negative : Bool) {n : Nat} (fits : n < 18446744073709551616)
    {rest : List Char} (stops : StopsNumbers rest) :
    readUnsigned negative (decimal n ++ rest) = some (readUnsigned.plain negative n 0, rest) := by
  have whole : valueFrom 0 (decimal n) = n := value_decimal n
  have taken : takeWord 0 (decimal n) = (n, (decimal n).length, []) := by
    rw [takeWord_of_lt isDigit_of_mem_decimal 0 (by rwa [whole]), whole]
  unfold readUnsigned
  rw [takeWhile_isDigit_append isDigit_of_mem_decimal stops.digits,
    dropWhile_isDigit_append isDigit_of_mem_decimal stops.digits]
  dsimp only
  split
  · exact absurd ‹_› (decimal_ne_nil n)
  · exact absurd ‹_› (decimal_ne_zero_cons n _ _)
  · rw [taken]
    dsimp only
    rw [Nat.sub_self]
    split
    · exact absurd rfl (stops '.' rfl).2.1
    · have noExponent := (stops _ rfl).2.2
      rw [if_neg (by simpa using noExponent)]
      rfl
    · rfl

/-! ## Values -/

/-- A value that is read as it was written, whatever follows that is no part of a number. -/
structure ReadsBack (j : Json) : Prop where
  opens : ∃ c cs, j.write = c :: cs ∧ isGap c = false ∧ c ≠ ']'
  reads : ∀ {fuel : Nat} {rest : List Char}, j.write.length ≤ fuel + 1 → StopsNumbers rest →
    readValue (fuel + 1) (j.write ++ rest) = (j, some rest)

theorem stopsNumbers_nil : StopsNumbers [] := by
  simp [StopsNumbers]

theorem stopsNumbers_cons {c : Char} (rest : List Char)
    (other : isDigit c = false ∧ c ≠ '.' ∧ c ≠ 'e' ∧ c ≠ 'E') : StopsNumbers (c :: rest) := by
  simpa [StopsNumbers] using other

theorem skipGap_cons {c : Char} {cs : List Char} (noGap : isGap c = false) :
    skipGap (c :: cs) = c :: cs := by
  simp [skipGap, noGap]

theorem isGap_of_isDigit {c : Char} (digit : isDigit c = true) : isGap c = false := by
  rw [Bool.eq_false_iff]
  intro gap
  simp only [isGap, Bool.or_eq_true, decide_eq_true_eq] at gap
  rcases gap with ((rfl | rfl) | rfl) | rfl <;> cases digit

/-- What starts with a digit is read as a number without a sign. -/
theorem readValue_of_digit {c : Char} (digit : isDigit c = true) {fuel : Nat} {cs rest : List Char}
    {number : Json} (numeral : readUnsigned false (c :: cs) = some (number, rest)) :
    readValue (fuel + 1) (c :: cs) = (number, some rest) := by
  rw [readValue, skipGap_cons (isGap_of_isDigit digit)]
  split
  case h_8 => rw [numeral]
  all_goals
    rename_i same
    cases same
    cases digit

/-- What starts with a bracket is read as a list, which is empty only if it is closed at once. -/
theorem readValue_list {fuel : Nat} {cs : List Char}
    (nonempty : ∀ after, skipGap cs ≠ ']' :: after) :
    readValue (fuel + 1) ('[' :: cs) = (.arr (readItems fuel cs).1, (readItems fuel cs).2) := by
  -- the choice between the two lists is settled by the hypothesis
  rw [readValue, skipGap_cons (by decide)]
  simp only

/-- What starts with a brace is read as an object, which is empty only if it is closed at once. -/
theorem readValue_object {fuel : Nat} {cs : List Char}
    (nonempty : ∀ after, skipGap cs ≠ '}' :: after) :
    readValue (fuel + 1) ('{' :: cs) = (.obj (readMembers fuel cs).1, (readMembers fuel cs).2) := by
  rw [readValue, skipGap_cons (by decide)]
  simp only

namespace ReadsBack

theorem null : ReadsBack .null where
  opens := ⟨'n', _, rfl, by decide, by decide⟩
  reads _ _ := rfl

theorem bool (b : Bool) : ReadsBack (.bool b) where
  opens := by
    cases b with
    | false => exact ⟨'f', _, rfl, by decide, by decide⟩
    | true => exact ⟨'t', _, rfl, by decide, by decide⟩
  reads _ _ := by cases b <;> rfl

theorem str (s : String) : ReadsBack (.str s) where
  opens := ⟨'"', _, rfl, by decide, by decide⟩
  reads {fuel rest} enough _ := by
    have written : (Json.str s).write = '"' :: (s.toList.flatMap writeChar ++ ['"']) := rfl
    have longer := length_le_flatMap_writeChar s.toList
    have enough' : s.toList.length < fuel := by
      rw [written, List.length_cons, List.length_append, List.length_singleton] at enough
      omega
    rw [written, List.cons_append, List.append_assoc, List.singleton_append, readValue,
      skipGap_cons (by decide)]
    simp only [readText_write _ _ enough', String.ofList_toList]

/-- The integers of 64 bits, signed or unsigned. -/
theorem int {i : Int} (low : -9223372036854775808 ≤ i) (high : i ≤ 18446744073709551615) :
    ReadsBack (.int i) := by
  obtain ⟨c, digits, split⟩ := List.exists_cons_of_ne_nil (decimal_ne_nil i.natAbs)
  have digit : isDigit c = true := isDigit_of_mem_decimal c (split ▸ List.mem_cons_self)
  by_cases negative : i < 0
  · have written : (Json.int i).write = '-' :: decimal i.natAbs := by
      rw [write, signed, if_pos negative]
    refine ⟨⟨'-', _, written, by decide, by decide⟩, fun {fuel rest} _ stops => ?_⟩
    have value : readUnsigned.plain true i.natAbs 0 = .int i := by
      rw [readUnsigned.plain, if_neg (by decide), if_pos rfl, if_neg (by omega), if_pos (by omega)]
      congr 1
      omega
    rw [written, List.cons_append, readValue, skipGap_cons (by decide)]
    simp only [readUnsigned_decimal true (by omega : i.natAbs < 18446744073709551616) stops, value]
  · have written : (Json.int i).write = decimal i.natAbs := by
      rw [write, signed, if_neg negative]
    have value : readUnsigned.plain false i.natAbs 0 = .int i := by
      rw [readUnsigned.plain, if_neg (by decide), if_neg (by decide)]
      congr 1
      omega
    refine ⟨⟨c, digits, written.trans split, isGap_of_isDigit digit, ?_⟩,
      fun {fuel rest} _ stops => ?_⟩
    · rintro rfl
      cases digit
    · have numeral := readUnsigned_decimal false (by omega : i.natAbs < 18446744073709551616) stops
      rw [value, split, List.cons_append] at numeral
      rw [written, split]
      exact readValue_of_digit digit numeral

/-- The length of its text is fuel enough to read a value back, since no text is empty. -/
theorem readValue_write {j : Json} (back : ReadsBack j) {fuel : Nat} {rest : List Char}
    (enough : j.write.length ≤ fuel) (stops : StopsNumbers rest) :
    readValue fuel (j.write ++ rest) = (j, some rest) := by
  obtain ⟨c, cs, starts, -, -⟩ := back.opens
  cases fuel with
  | zero => rw [starts] at enough; cases enough
  | succ fuel => exact back.reads enough stops

end ReadsBack

theorem writeItems_cons (item : Json) (others : List Json) :
    ∃ more, writeItems (item :: others) = item.write ++ more := by
  cases others with
  | nil => exact ⟨[], (List.append_nil _).symm⟩
  | cons next others => exact ⟨_, rfl⟩

theorem writeMembers_cons (name value : Json) (others : List (Json × Json)) :
    ∃ more, writeMembers ((name, value) :: others) = name.write ++ ':' :: more := by
  cases others with
  | nil => exact ⟨_, rfl⟩
  | cons next others => exact ⟨_, List.append_assoc ..⟩

/-- Items that are read back are so as a list, up to the closing bracket. -/
theorem readItems_writeItems {items : List Json} (nonempty : items ≠ [])
    (each : ∀ item ∈ items, ReadsBack item) {fuel : Nat}
    (enough : (writeItems items).length < fuel) (rest : List Char) :
    readItems fuel (writeItems items ++ ']' :: rest) = (items, some rest) := by
  induction items generalizing fuel with
  | nil => exact absurd rfl nonempty
  | cons item others inductionHypothesis =>
    obtain ⟨fuel, rfl⟩ : ∃ f, fuel = f + 1 := ⟨fuel - 1, by omega⟩
    have first := each item List.mem_cons_self
    cases others with
    | nil =>
      have written : writeItems [item] = item.write := rfl
      rw [written] at enough ⊢
      rw [readItems, first.readValue_write (by omega) (stopsNumbers_cons rest (by decide))]
      rfl
    | cons next others =>
      have written : writeItems (item :: next :: others) =
          item.write ++ ',' :: writeItems (next :: others) := rfl
      rw [written, List.length_append, List.length_cons] at enough
      have later := inductionHypothesis (List.cons_ne_nil next others)
        (fun j later => each j (List.mem_cons_of_mem item later))
        (by omega : (writeItems (next :: others)).length < fuel)
      rw [written, List.append_assoc, List.cons_append, readItems,
        first.readValue_write (by omega) (stopsNumbers_cons _ (by decide))]
      simp only [skipGap_cons (by decide : isGap ',' = false), later]

/-- Members whose values are read back are so as an object, up to the closing brace. -/
theorem readMembers_writeMembers {members : List (Json × Json)} (nonempty : members ≠ [])
    (named : ∀ member ∈ members, ∃ name, member.1 = .str name)
    (each : ∀ member ∈ members, ReadsBack member.2) {fuel : Nat}
    (enough : (writeMembers members).length < fuel) (rest : List Char) :
    readMembers fuel (writeMembers members ++ '}' :: rest) = (members, some rest) := by
  induction members generalizing fuel with
  | nil => exact absurd rfl nonempty
  | cons member others inductionHypothesis =>
    obtain ⟨key, value⟩ := member
    obtain ⟨name, rfl⟩ : ∃ name, key = .str name := named _ List.mem_cons_self
    obtain ⟨fuel, rfl⟩ : ∃ f, fuel = f + 1 := ⟨fuel - 1, by omega⟩
    have first : ReadsBack value := each _ List.mem_cons_self
    cases others with
    | nil =>
      have written : writeMembers [(.str name, value)] =
        (Json.str name).write ++ ':' :: value.write := rfl
      rw [written, List.length_append, List.length_cons] at enough
      rw [written, List.append_assoc, List.cons_append, readMembers,
        (ReadsBack.str name).readValue_write (by omega) (stopsNumbers_cons _ (by decide))]
      simp only [skipGap_cons (by decide : isGap ':' = false), afterName]
      rw [first.readValue_write (by omega) (stopsNumbers_cons _ (by decide))]
      rfl
    | cons next others =>
      have written : writeMembers ((.str name, value) :: next :: others) =
          (Json.str name).write ++ ':' :: value.write ++ ',' :: writeMembers (next :: others) := rfl
      rw [written] at enough
      simp only [List.length_append, List.length_cons] at enough
      have later := inductionHypothesis (List.cons_ne_nil next others)
        (fun member later => named member (List.mem_cons_of_mem _ later))
        (fun member later => each member (List.mem_cons_of_mem _ later))
        (by omega : _ < fuel)
      rw [written, List.append_assoc, List.append_assoc, List.cons_append, List.cons_append,
        readMembers, (ReadsBack.str name).readValue_write (by omega)
          (stopsNumbers_cons _ (by decide))]
      simp only [skipGap_cons (by decide : isGap ':' = false), afterName]
      rw [first.readValue_write (by omega) (stopsNumbers_cons _ (by decide))]
      simp only [skipGap_cons (by decide : isGap ',' = false), later]

namespace ReadsBack

/-- A list is read back when its items are. -/
theorem arr {items : List Json} (each : ∀ item ∈ items, ReadsBack item) :
    ReadsBack (.arr items) where
  opens := ⟨'[', _, rfl, by decide, by decide⟩
  reads {fuel rest} enough _ := by
    cases items with
    | nil => rfl
    | cons item others =>
      have written : (Json.arr (item :: others)).write =
        '[' :: (writeItems (item :: others) ++ [']']) := rfl
      have nonempty (after : List Char) :
          skipGap (writeItems (item :: others) ++ ']' :: rest) ≠ ']' :: after := by
        obtain ⟨more, starts⟩ := writeItems_cons item others
        obtain ⟨c, cs, first, noGap, other⟩ := (each item List.mem_cons_self).opens
        rw [starts, first, List.cons_append, List.cons_append, skipGap_cons noGap]
        exact fun same => other (List.cons.inj same).1
      rw [written, List.length_cons, List.length_append, List.length_singleton] at enough
      rw [written, List.cons_append, List.append_assoc, List.singleton_append,
        readValue_list nonempty,
        readItems_writeItems (List.cons_ne_nil item others) each (by omega) rest]

/-- An object whose names are texts is read back when the values of its members are. -/
theorem obj {members : List (Json × Json)}
    (named : ∀ member ∈ members, ∃ name, member.1 = .str name)
    (each : ∀ member ∈ members, ReadsBack member.2) : ReadsBack (.obj members) where
  opens := ⟨'{', _, rfl, by decide, by decide⟩
  reads {fuel rest} enough _ := by
    cases members with
    | nil => rfl
    | cons member others =>
      have written : (Json.obj (member :: others)).write =
        '{' :: (writeMembers (member :: others) ++ ['}']) := rfl
      have nonempty (after : List Char) :
          skipGap (writeMembers (member :: others) ++ '}' :: rest) ≠ '}' :: after := by
        obtain ⟨name, text⟩ := named member List.mem_cons_self
        obtain ⟨more, starts⟩ := writeMembers_cons member.1 member.2 others
        rw [starts, text]
        exact fun same => absurd (List.cons.inj same).1 (by decide)
      rw [written, List.length_cons, List.length_append, List.length_singleton] at enough
      rw [written, List.cons_append, List.append_assoc, List.singleton_append,
        readValue_object nonempty,
        readMembers_writeMembers (List.cons_ne_nil member others) named each (by omega) rest]

theorem object {members : List (String × Json)} (each : ∀ member ∈ members, ReadsBack member.2) :
    ReadsBack (.object members) := by
  refine obj (fun member written => ?_) (fun member written => ?_)
  · obtain ⟨⟨name, value⟩, -, rfl⟩ := List.mem_map.1 written
    exact ⟨name, rfl⟩
  · obtain ⟨⟨name, value⟩, among, rfl⟩ := List.mem_map.1 written
    exact each (name, value) among

end ReadsBack

/-- The text of a value is read as the value and nothing else. -/
theorem ReadsBack.readText?_render {j : Json} (back : ReadsBack j) :
    readText? j.render.toList = (j, some []) := by
  have whole : readValue (2 * j.write.length + 2) (j.write ++ []) = (j, some []) :=
    back.readValue_write (by omega) stopsNumbers_nil
  rwa [List.append_nil, ← String.toList_ofList (l := j.write)] at whole

end IncidentWatch.Json

namespace IncidentWatch.Decode

/-- Decoding the text of a value decodes the value. -/
theorem text_render {α : Type} (d : Decoder α) {j : Json} (back : j.ReadsBack) :
    text d j.render = d j := by
  unfold text
  rw [back.readText?_render]
  show (d j >>= fun a => pure a) = d j
  exact bind_pure (d j)

end IncidentWatch.Decode

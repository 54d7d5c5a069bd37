import IncidentWatch.Text.Blank
import IncidentWatch.Text.CaseFold
import IncidentWatch.Text.Numeral
import IncidentWatch.Text.WordChar

/-!
# Sets of characters

A set of characters is built from spans of code points and from the digits, the
words' characters and the blanks of all scripts, by union, intersection and
complement. Folding a set adds the characters that are alike to a member when
letter case is ignored.
-/

set_option autoImplicit false

namespace IncidentWatch

/-- A set of characters. -/
inductive CharSet where
  | nothing
  | span (first last : Nat)
  | decimal
  | word
  | blank
  | union (a b : CharSet)
  | inter (a b : CharSet)
  | compl (a : CharSet)
  | folded (a : CharSet)
  deriving DecidableEq, Repr

namespace CharSet

open Text

/-- Membership. -/
def has : CharSet → Char → Bool
  | nothing, _ => false
  | span first last, c => first ≤ c.toNat && c.toNat ≤ last
  | decimal, c => isDecimal c
  | word, c => isWordChar c
  | blank, c => isBlank c
  | union a b, c => a.has c || b.has c
  | inter a b, c => a.has c && b.has c
  | compl a, c => !a.has c
  | folded a, c => (alike c).any a.has

/-- The set of one character. -/
def single (c : Char) : CharSet :=
  .span c.toNat c.toNat

/-- The set of all characters. -/
def all : CharSet :=
  .compl .nothing

/-- The union of a list of sets. -/
def unions (sets : List CharSet) : CharSet :=
  sets.foldl .union .nothing

/-- The set of one character has that character only. -/
theorem has_single {c d : Char} : (single c).has d = true ↔ d = c := by
  simp only [single, has, Bool.and_eq_true, decide_eq_true_eq]
  constructor
  · rintro ⟨h, h'⟩
    exact Char.toNat_inj.1 (by omega)
  · rintro rfl
    exact ⟨Nat.le_refl _, Nat.le_refl _⟩

/-- The ASCII classes by their names. -/
def asciiClasses : List (String × CharSet) :=
  let digits := span 48 57
  let capitals := span 65 90
  let smalls := span 97 122
  let letters := union capitals smalls
  [("alnum", union digits letters), ("alpha", letters), ("ascii", span 0 127),
    ("blank", union (span 9 9) (span 32 32)), ("cntrl", union (span 0 31) (span 127 127)),
    ("digit", digits), ("graph", span 33 126), ("lower", smalls), ("print", span 32 126),
    ("punct", unions [span 33 47, span 58 64, span 91 96, span 123 126]),
    ("space", union (span 9 13) (span 32 32)), ("upper", capitals),
    ("word", unions [digits, letters, span 95 95]),
    ("xdigit", unions [digits, span 65 70, span 97 102])]

/-- The ASCII class of a name. -/
def ascii (name : String) : CharSet :=
  (asciiClasses.lookup name).getD .nothing

end CharSet

end IncidentWatch

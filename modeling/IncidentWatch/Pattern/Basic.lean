import IncidentWatch.Pattern.CharSet

/-!
# Patterns

A pattern describes texts that may stand inside a longer one. Besides the
characters of the text it can ask about the place where it stands: whether there
is a character before and after, and which. `Matches` says which texts match at
which places; `occursIn` looks for a match anywhere by going through the text
once, keeping the patterns that may still have to be matched.
-/

set_option autoImplicit false

namespace IncidentWatch

/-- What can be asked of a place between two characters, of which either may be missing. -/
inductive Place where
  | textStart
  | textEnd
  | lineStart
  | lineEnd
  /-- Lines that may also end in a carriage return. -/
  | returnLineStart
  | returnLineEnd
  | wordEdge (words : CharSet)
  | noWordEdge (words : CharSet)
  | wordStart (words : CharSet)
  | wordEnd (words : CharSet)
  | noWordBefore (words : CharSet)
  | noWordAfter (words : CharSet)
  deriving DecidableEq, Repr

/-- Whether a place between `before` and `after` is as asked. -/
def Place.holds (before after : Option Char) : Place → Bool
  | textStart => before.isNone
  | textEnd => after.isNone
  | lineStart => before.isNone || before == some '\n'
  | lineEnd => after.isNone || after == some '\n'
  | returnLineStart =>
    before.isNone || before == some '\n' || (before == some '\r' && after != some '\n')
  | returnLineEnd =>
    after.isNone || after == some '\r' || (after == some '\n' && before != some '\r')
  | wordEdge words => before.any words.has != after.any words.has
  | noWordEdge words => before.any words.has == after.any words.has
  | wordStart words => !before.any words.has && after.any words.has
  | wordEnd words => before.any words.has && !after.any words.has
  | noWordBefore words => !before.any words.has
  | noWordAfter words => !after.any words.has

/-- A description of texts. -/
inductive Pattern where
  | never
  | empty
  | one (s : CharSet)
  | at (place : Place)
  | seq (p q : Pattern)
  | either (p q : Pattern)
  | many (p : Pattern)
  deriving DecidableEq, Repr

namespace Pattern

/-- Whether a text matches where it stands between `before` and `after`. -/
inductive Matches : Pattern → Option Char → List Char → Option Char → Prop where
  | empty {before after} : Matches .empty before [] after
  | one {s : CharSet} {c : Char} {before after} (h : s.has c = true) :
    Matches (.one s) before [c] after
  | at {place : Place} {before after} (h : place.holds before after = true) :
    Matches (.at place) before [] after
  | seq {p q : Pattern} {s t : List Char} {before after}
    (hp : Matches p before s (t.head?.or after))
    (hq : Matches q (s.getLast?.or before) t after) :
    Matches (.seq p q) before (s ++ t) after
  | left {p q : Pattern} {s : List Char} {before after} (h : Matches p before s after) :
    Matches (.either p q) before s after
  | right {p q : Pattern} {s : List Char} {before after} (h : Matches q before s after) :
    Matches (.either p q) before s after
  | none {p : Pattern} {before after} : Matches (.many p) before [] after
  | more {p : Pattern} {s t : List Char} {before after}
    (hp : Matches p before s (t.head?.or after))
    (hq : Matches (.many p) (s.getLast?.or before) t after) :
    Matches (.many p) before (s ++ t) after

/-- Whether the empty text matches at a place. -/
def matchesEmpty (before after : Option Char) : Pattern → Bool
  | never => false
  | empty => true
  | one _ => false
  | .at place => place.holds before after
  | seq p q => p.matchesEmpty before after && q.matchesEmpty before after
  | either p q => p.matchesEmpty before after || q.matchesEmpty before after
  | many _ => true

/-- What is left to match of a pattern after the character `c` at its start. -/
def step (before : Option Char) (c : Char) : Pattern → List Pattern
  | never => []
  | empty => []
  | one s => if s.has c then [.empty] else []
  | .at _ => []
  | seq p q =>
    (p.step before c).map (.seq · q)
      ++ if p.matchesEmpty before (some c) then q.step before c else []
  | either p q => p.step before c ++ q.step before c
  | many p => (p.step before c).map (.seq · (.many p))

/-- Whether one of the open patterns, or the pattern itself from some later place on, matches a
part of the text that starts here. -/
def occursFrom (p : Pattern) : List Pattern → Option Char → List Char → Bool
  | live, before, [] => (p :: live).any (·.matchesEmpty before none)
  | live, before, c :: rest =>
    (p :: live).any (·.matchesEmpty before (some c))
      || p.occursFrom ((p :: live).flatMap (·.step before c)).eraseDups (some c) rest

/-- Whether some part of a text matches. -/
def occursIn (p : Pattern) (text : String) : Bool :=
  p.occursFrom [] none text.toList

/-! ## Building patterns -/

/-- A list of patterns one after the other. -/
def sequence : List Pattern → Pattern
  | [] => .empty
  | [p] => p
  | p :: rest => .seq p (sequence rest)

/-- One of a list of patterns. -/
def choice : List Pattern → Pattern
  | [] => .never
  | [p] => p
  | p :: rest => .either p (choice rest)

/-- A pattern up to `n` times. -/
def upTo (p : Pattern) : Nat → Pattern
  | 0 => .empty
  | n + 1 => .either .empty (.seq p (p.upTo n))

/-- A pattern at least `low` times, and at most `high` times if there is a bound. -/
def times (p : Pattern) (low : Nat) (high : Option Nat) : Pattern :=
  let rest := match high with
    | none => .many p
    | some high => p.upTo (high - low)
  sequence (List.replicate low p ++ [rest])

end Pattern

end IncidentWatch

import IncidentWatch.Pattern.Basic

/-!
# Reading patterns

Patterns are written with the usual operators: `|` between alternatives, `*`,
`+`, `?` and counts in braces after what is repeated, parentheses for groups,
brackets for sets of characters, backslashes for escapes and for sets and places
by letter. Flags such as `(?i)` hold from where they stand to the end of their
group. A group in its writing may have a name, each name once. What looks around
without being a place by letter, and references to groups, are refused.

The reader goes through the text once. For each open group it keeps the
alternatives that are complete and the parts of the one that it is in.
-/

set_option autoImplicit false

namespace IncidentWatch.Pattern

open Text

/-- The flags in force at a place of the text. -/
structure Flags where
  caseless : Bool := false
  multiline : Bool := false
  dotAll : Bool := false
  unicode : Bool := true
  crlf : Bool := false
  spaced : Bool := false
  deriving DecidableEq, Repr

/-- What stands for itself after a backslash. -/
def isEscapable (c : Char) : Bool :=
  c.toNat < 128 && !isDigit c && !c.isAlpha && c ≠ '<' && c ≠ '>'

/-- Passes over blanks and comments where they do not count. -/
def skipSpace (flags : Flags) : List Char → List Char
  | [] => []
  | c :: rest =>
    if !flags.spaced then c :: rest
    else if isBlank c then skipSpace flags rest
    else if c = '#' then skipComment flags rest
    else c :: rest
where
  /-- Passes over the rest of a comment. -/
  skipComment (flags : Flags) : List Char → List Char
    | [] => []
    | '\n' :: rest => skipSpace flags rest
    | _ :: rest => skipComment flags rest

/-! ## Sets -/

/-- The value of a hexadecimal digit. -/
def hexValue? (c : Char) : Option Nat :=
  if isDigit c then some (c.toNat - 48)
  else if 'a' ≤ c ∧ c ≤ 'f' then some (c.toNat - 87)
  else if 'A' ≤ c ∧ c ≤ 'F' then some (c.toNat - 55)
  else none

/-- The character whose code point is written in hexadecimal digits. -/
def hexChar? (digits : List Char) : Option Char := do
  if digits.isEmpty then none
  let n ← digits.foldlM (fun n d => (hexValue? d).map (16 * n + ·)) 0
  if h : n.isValidChar then some (Char.ofNatAux n h) else none

/-- A code point in braces or by a fixed number of digits. -/
def readHex (digits : Nat) (cs : List Char) : Option (Char × List Char) :=
  match cs with
  | '{' :: rest =>
    match rest.dropWhile (· ≠ '}') with
    | '}' :: after => (hexChar? (rest.takeWhile (· ≠ '}'))).map (·, after)
    | _ => none
  | _ =>
    if cs.length < digits then none
    else (hexChar? (cs.take digits)).map (·, cs.drop digits)

/-- What a backslash and the text after it stand for. -/
inductive Escape where
  | char (c : Char)
  | set (s : CharSet)
  | place (p : Place)

/-- The characters of words, by whether all scripts count. -/
def words (flags : Flags) : CharSet :=
  if flags.unicode then .word else .ascii "word"

/-- A set by letter or its complement; without all scripts there are no complements. -/
def letterSet (flags : Flags) (all ascii : CharSet) (negated : Bool) : Option CharSet :=
  match flags.unicode, negated with
  | true, false => some all
  | true, true => some (.compl all)
  | false, false => some ascii
  | false, true => none

/-- The place that a name in braces after the letter `b` asks for. -/
def namedPlace? (flags : Flags) (name : List Char) : Option Place :=
  [("start".toList, Place.wordStart (words flags)), ("end".toList, .wordEnd (words flags)),
    ("start-half".toList, .noWordBefore (words flags)),
    ("end-half".toList, .noWordAfter (words flags))].lookup name

/-- The edge of a word, or the place named in the braces that follow. -/
def readEdge (flags : Flags) (cs : List Char) : Option (Escape × List Char) :=
  match cs with
  | '{' :: rest =>
    let named := match skipSpace flags rest with
      | c :: _ => c.isAlpha || c = '-'
      | [] => false
    if named then
      match rest.dropWhile (· ≠ '}') with
      | '}' :: after =>
        (namedPlace? flags (rest.takeWhile (· ≠ '}'))).map fun p => (.place p, after)
      | _ => none
    else some (.place (.wordEdge (words flags)), cs)
  | _ => some (.place (.wordEdge (words flags)), cs)

/-- What follows a backslash. -/
def readEscape (flags : Flags) (cs : List Char) : Option (Escape × List Char) :=
  let char (c : Char) (rest : List Char) := some (Escape.char c, rest)
  let set (all ascii : CharSet) (negated : Bool) (rest : List Char) :=
    (letterSet flags all ascii negated).map fun s => (Escape.set s, rest)
  let place (p : Place) (rest : List Char) := some (Escape.place p, rest)
  match cs with
  | [] => none
  | c :: rest =>
    if isEscapable c then char c rest
    else match c with
      | 'a' => char '\x07' rest
      | 'f' => char '\x0c' rest
      | 't' => char '\t' rest
      | 'n' => char '\n' rest
      | 'r' => char '\r' rest
      | 'v' => char '\x0b' rest
      | 'x' => (readHex 2 rest).map fun (c, after) => (.char c, after)
      | 'u' => (readHex 4 rest).map fun (c, after) => (.char c, after)
      | 'U' => (readHex 8 rest).map fun (c, after) => (.char c, after)
      | 'd' => set .decimal (.ascii "digit") false rest
      | 'D' => set .decimal (.ascii "digit") true rest
      | 's' => set .blank (.ascii "space") false rest
      | 'S' => set .blank (.ascii "space") true rest
      | 'w' => set .word (.ascii "word") false rest
      | 'W' => set .word (.ascii "word") true rest
      | 'A' => place .textStart rest
      | 'z' => place .textEnd rest
      | 'B' => place (.noWordEdge (words flags)) rest
      | '<' => place (.wordStart (words flags)) rest
      | '>' => place (.wordEnd (words flags)) rest
      | 'b' => readEdge flags rest
      | _ => none

/-- The alike characters are added where case is ignored. -/
def fold (flags : Flags) (s : CharSet) : CharSet :=
  if flags.caseless then
    if flags.unicode then .folded s else .inter (.folded s) (.ascii "ascii")
  else s

/-- The operators between sets. -/
inductive SetOperator where
  | inter
  | minus
  | either

/-- The set that an operator makes of two. -/
def SetOperator.apply (op : SetOperator) (a b : CharSet) : CharSet :=
  match op with
  | .inter => .inter a b
  | .minus => .inter a (.compl b)
  | .either => .union (.inter a (.compl b)) (.inter b (.compl a))

/-- What was read of a set: the operand before an operator, and the union after it. -/
structure SetState where
  pending : Option (CharSet × SetOperator) := none
  current : CharSet := .nothing
  negated : Bool := false

namespace SetState

def add (st : SetState) (s : CharSet) : SetState :=
  { st with current := .union st.current s }

/-- The set of all that was read. -/
def total (flags : Flags) (st : SetState) : CharSet :=
  match st.pending with
  | none => st.current
  | some (a, op) => op.apply (fold flags a) (fold flags st.current)

/-- What is known after an operator. -/
def operate (flags : Flags) (st : SetState) (op : SetOperator) : SetState :=
  { st with pending := some (st.total flags, op), current := .nothing }

/-- The set between the brackets; without all scripts there are no complements. -/
def close (flags : Flags) (st : SetState) : Option CharSet :=
  let s := fold flags (st.total flags)
  if st.negated then if flags.unicode then some (.compl s) else none else some s

end SetState

/-- The hyphens at the start of a set stand for themselves, and so does a bracket after none. -/
def openSet (flags : Flags) (cs : List Char) : SetState × List Char :=
  let (negated, rest) := match skipSpace flags cs with
    | '^' :: rest => (true, skipSpace flags rest)
    | rest => (false, rest)
  let start : SetState := { negated := negated }
  match rest with
  | '-' :: after =>
    (start.add (.single '-'), skipSpace flags (after.dropWhile (· = '-')))
  | ']' :: after => (start.add (.single ']'), after)
  | _ => (start, rest)

/-- A class in brackets and colons, if one stands here. -/
def readNamedSet? (cs : List Char) : Option (CharSet × List Char) :=
  match cs with
  | ':' :: rest =>
    let (negated, rest) := match rest with
      | '^' :: rest => (true, rest)
      | rest => (false, rest)
    match rest.dropWhile (· ≠ ':') with
    | ':' :: ']' :: after =>
      (CharSet.asciiClasses.lookup (String.ofList (rest.takeWhile (· ≠ ':')))).map fun s =>
        (if negated then .compl s else s, after)
    | _ => none
  | _ => none

/-- A character or a set by letter inside a set. -/
def readItem (flags : Flags) (cs : List Char) : Option ((Char ⊕ CharSet) × List Char) :=
  match cs with
  | [] => none
  | '\\' :: rest =>
    match readEscape flags rest with
    | some (.char c, after) => some (.inl c, after)
    | some (.set s, after) => some (.inr s, after)
    | _ => none
  | c :: rest => some (.inl c, rest)

/-- A character, a range of characters or a set by letter inside a set. -/
def readRange (flags : Flags) (cs : List Char) : Option (CharSet × List Char) := do
  let (item, rest) ← readItem flags cs
  let alone : CharSet := match item with
    | .inl c => .single c
    | .inr s => s
  match skipSpace flags rest with
  | '-' :: after =>
    match skipSpace flags after with
    | ']' :: _ => some (alone, '-' :: after)
    | '-' :: _ => some (alone, '-' :: after)
    | bound =>
      match item, ← readItem flags bound with
      | .inl c, (.inl d, rest) => if c ≤ d then some (.span c.toNat d.toNat, rest) else none
      | _, _ => none
  | rest => some (alone, rest)

/-- Reads a set to its closing bracket; each turn takes at least one character. -/
def readSet (flags : Flags) : Nat → SetState → List Char → Option (CharSet × List Char)
  | 0, _, _ => none
  | turns + 1, st, cs =>
    match skipSpace flags cs with
    | [] => none
    | ']' :: rest => (st.close flags).map (·, rest)
    | '&' :: '&' :: rest => readSet flags turns (st.operate flags .inter) rest
    | '-' :: '-' :: rest => readSet flags turns (st.operate flags .minus) rest
    | '~' :: '~' :: rest => readSet flags turns (st.operate flags .either) rest
    | '[' :: rest =>
      match readNamedSet? rest with
      | some (s, after) => readSet flags turns (st.add s) after
      | none => do
        let (inner, after) := openSet flags rest
        let (s, after) ← readSet flags turns inner after
        readSet flags turns (st.add s) after
    | rest => do
      let (s, after) ← readRange flags rest
      readSet flags turns (st.add s) after

/-! ## Groups and repetitions -/

/-- What was read of a group. A part is missing where flags were set, which cannot be repeated. -/
structure Group where
  outer : Flags
  branches : List Pattern := []
  parts : List (Option Pattern) := []

namespace Group

/-- The alternative that is being read. -/
def branch (g : Group) : Pattern :=
  sequence (g.parts.reverse.filterMap id)

/-- The pattern of a group that is complete. -/
def pattern (g : Group) : Pattern :=
  choice (g.branches ++ [g.branch])

end Group

/-- What was read so far: the flags in force, the innermost group and those around it. -/
structure Reading where
  flags : Flags := {}
  group : Group := { outer := {} }
  around : List Group := []
  names : List (List Char) := []

namespace Reading

def push (r : Reading) (p : Pattern) : Reading :=
  { r with group := { r.group with parts := some p :: r.group.parts } }

/-- Starts a group. -/
def openGroup (r : Reading) : Reading :=
  { r with group := { outer := r.flags }, around := r.group :: r.around }

/-- Ends a group. -/
def closeGroup (r : Reading) : Option Reading :=
  match r.around with
  | [] => none
  | g :: around =>
    some { r with
      flags := r.group.outer
      around := around
      group := { g with parts := some r.group.pattern :: g.parts } }

/-- Starts a further alternative. -/
def alternate (r : Reading) : Reading :=
  { r with group := { r.group with branches := r.group.branches ++ [r.group.branch], parts := [] } }

/-- Repeats the part that was read last. -/
def repeatLast (r : Reading) (low : Nat) (high : Option Nat) : Option Reading :=
  match r.group.parts with
  | some p :: parts =>
    some { r with group := { r.group with parts := some (p.times low high) :: parts } }
  | _ => none

/-- Sets flags to the end of the group. -/
def setFlags (r : Reading) (flags : Flags) : Reading :=
  { r with
    flags := flags
    group := { r.group with parts := none :: r.group.parts } }

end Reading

/-- One flag set or cleared. -/
def Flags.assign (flags : Flags) (value : Bool) : Char → Option Flags
  | 'i' => some { flags with caseless := value }
  | 'm' => some { flags with multiline := value }
  | 's' => some { flags with dotAll := value }
  | 'U' => some flags
  | 'u' => some { flags with unicode := value }
  | 'R' => some { flags with crlf := value }
  | 'x' => some { flags with spaced := value }
  | _ => none

/-- Flags to be set and, after a hyphen, to be cleared, each once; the hyphen must be followed
by one. -/
def readFlags (flags : Flags) (letters : List Char) : Option Flags := do
  let shown := letters.takeWhile (· ≠ '-')
  let hidden := letters.drop (shown.length + 1)
  if letters.contains '-' && hidden.isEmpty then none
  if (shown ++ hidden).eraseDups.length ≠ (shown ++ hidden).length then none
  let flags ← shown.foldlM (fun f c => f.assign true c) flags
  hidden.foldlM (fun f c => f.assign false c) flags

/-- The characters a group's name is made of. -/
def isNameChar (first : Bool) (c : Char) : Bool :=
  let letter := isWordChar c && !isDecimal c
  if first then letter else letter || isDecimal c || c = '.' || c = '[' || c = ']'

/-- The name of a group, up to its closing bracket. -/
def readName (r : Reading) (cs : List Char) : Option (Reading × List Char) :=
  let name := cs.takeWhile (· ≠ '>')
  match cs.dropWhile (· ≠ '>'), name with
  | '>' :: rest, first :: more =>
    if isNameChar true first && more.all (isNameChar false) && !r.names.contains name then
      some ({ r with names := name :: r.names }.openGroup, rest)
    else none
  | _, _ => none

/-- What follows an opening parenthesis. -/
def readOpening (r : Reading) (cs : List Char) : Option (Reading × List Char) :=
  match skipSpace r.flags cs with
  | '?' :: rest =>
    match rest with
    | '=' :: _ => none
    | '!' :: _ => none
    | '<' :: '=' :: _ => none
    | '<' :: '!' :: _ => none
    | 'P' :: '<' :: rest => readName r rest
    | '<' :: rest => readName r rest
    | _ => do
      let letters := rest.takeWhile fun c => c ≠ ')' && c ≠ ':'
      let flags ← readFlags r.flags letters
      match rest.dropWhile fun c => c ≠ ')' && c ≠ ':' with
      | ':' :: after => some ({ r.openGroup with flags := flags }, after)
      | ')' :: after => if letters.isEmpty then none else some (r.setFlags flags, after)
      | _ => none
  | rest => some (r.openGroup, rest)

/-- A repetition that is reluctant finds the same texts. -/
def skipReluctance (cs : List Char) : List Char :=
  match cs with
  | '?' :: rest => rest
  | _ => cs

/-- The number of a count, with blanks around it. -/
def readCount (cs : List Char) : Option Nat :=
  (natOf? (trim cs)).filter (· < 4294967296)

/-- A count in braces: the least and the greatest number of times. -/
def readCounts (cs : List Char) : Option ((Nat × Option Nat) × List Char) := do
  let inside := cs.takeWhile (· ≠ '}')
  match cs.dropWhile (· ≠ '}') with
  | '}' :: after =>
    let low ← readCount (inside.takeWhile (· ≠ ','))
    match inside.dropWhile (· ≠ ',') with
    | [] => some ((low, some low), skipReluctance after)
    | _ :: bound =>
      if bound.all isBlank then some ((low, none), skipReluctance after)
      else do
        let high ← readCount bound
        if low ≤ high then some ((low, some high), skipReluctance after) else none
  | _ => none

/-- Any character that does not end a line. -/
def dot (flags : Flags) : Option CharSet :=
  if !flags.unicode then none
  else if flags.dotAll then some .all
  else if flags.crlf then some (.compl (.union (.single '\n') (.single '\r')))
  else some (.compl (.single '\n'))

/-- The start of the text, or of a line. -/
def caret (flags : Flags) : Place :=
  if !flags.multiline then .textStart else if flags.crlf then .returnLineStart else .lineStart

/-- The end of the text, or of a line. -/
def dollar (flags : Flags) : Place :=
  if !flags.multiline then .textEnd else if flags.crlf then .returnLineEnd else .lineEnd

/-- How often a part can be repeated before the pattern counts as too large. -/
def countLimit : Nat := 100000

/-- Takes the next element of the text. -/
def advance (r : Reading) (c : Char) (rest : List Char) : Option (Reading × List Char) :=
  match c with
  | '(' => readOpening r rest
  | ')' => r.closeGroup.map (·, rest)
  | '|' => some (r.alternate, rest)
  | '[' => do
    let (st, after) := openSet r.flags rest
    let (s, after) ← readSet r.flags (rest.length + 1) st after
    return (r.push (.one s), after)
  | '*' => (r.repeatLast 0 none).map (·, skipReluctance rest)
  | '+' => (r.repeatLast 1 none).map (·, skipReluctance rest)
  | '?' => (r.repeatLast 0 (some 1)).map (·, skipReluctance rest)
  | '{' => do
    let ((low, high), after) ← readCounts rest
    if countLimit < low || countLimit < high.getD 0 then none
    return (← r.repeatLast low high, after)
  | '.' => (dot r.flags).map fun s => (r.push (.one s), rest)
  | '^' => some (r.push (.at (caret r.flags)), rest)
  | '$' => some (r.push (.at (dollar r.flags)), rest)
  | '\\' =>
    (readEscape r.flags rest).map fun (e, after) =>
      match e with
      | .char c => (r.push (.one (fold r.flags (.single c))), after)
      | .set s => (r.push (.one s), after)
      | .place p => (r.push (.at p), after)
  | c => some (r.push (.one (fold r.flags (.single c))), rest)

/-- Reads to the end of the text; each turn takes at least one character. -/
def readAll : Nat → Reading → List Char → Option Pattern
  | 0, _, _ => none
  | turns + 1, r, cs =>
    match skipSpace r.flags cs with
    | [] => if r.around.isEmpty then some r.group.pattern else none
    | c :: rest => do
      let (r, rest) ← advance r c rest
      readAll turns r rest

/-- The pattern that a text writes. -/
def parse? (s : String) : Option Pattern :=
  readAll (s.toList.length + 1) {} s.toList

end IncidentWatch.Pattern

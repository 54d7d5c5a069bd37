import IncidentWatch.Json.Basic

/-!
# Reading JSON

The text is read from the left, and what follows the value is handed back; there
is no rest when the text breaks off inside the value. Blanks are the four of
JSON. A number without fraction and exponent is an integer while it fits 64 bits,
signed or unsigned; the others are floating, and a negative zero is too. The
digits of a floating number count while they fit 64 bits, and a power of ten is
applied to them in steps that round.
-/

set_option autoImplicit false

namespace IncidentWatch.Json

open Text

/-- The blanks between the parts of a text. -/
def isGap (c : Char) : Bool :=
  c = ' ' || c = '\n' || c = '\t' || c = '\r'

/-- The text after blanks. -/
def skipGap (cs : List Char) : List Char :=
  cs.dropWhile isGap

/-- The rest of a text after a word that it must start with. -/
def afterWord : List Char → List Char → Option (List Char)
  | [], cs => some cs
  | _ :: _, [] => none
  | w :: word, c :: cs => if w = c then afterWord word cs else none

/-! ## Strings -/

/-- The value of a hexadecimal digit. -/
def hexValue? (c : Char) : Option Nat :=
  if '0' ≤ c ∧ c ≤ '9' then some (c.toNat - 48)
  else if 'a' ≤ c ∧ c ≤ 'f' then some (c.toNat - 87)
  else if 'A' ≤ c ∧ c ≤ 'F' then some (c.toNat - 55)
  else none

/-- The value of four hexadecimal digits. -/
def hexUnit? (cs : List Char) : Option (Nat × List Char) :=
  match cs with
  | a :: b :: c :: d :: rest => do
    let a ← hexValue? a
    let b ← hexValue? b
    let c ← hexValue? c
    let d ← hexValue? d
    return (((a * 16 + b) * 16 + c) * 16 + d, rest)
  | _ => none

/-- The character of a one-letter escape. -/
def letterEscape? (c : Char) : Option Char :=
  if c = '"' ∨ c = '\\' ∨ c = '/' then some c
  else if c = 'b' then some '\x08'
  else if c = 'f' then some '\x0c'
  else if c = 'n' then some '\n'
  else if c = 'r' then some '\r'
  else if c = 't' then some '\t'
  else none

/-- One element of a string: a character, half a surrogate pair, or the closing quote. -/
inductive StringPart where
  | char (c : Char)
  | half
  | close
  deriving DecidableEq, Repr

/-- An escape, after its backslash; the two halves of a surrogate pair are one character. -/
def readEscape (cs : List Char) : Option (StringPart × List Char) :=
  match cs with
  | 'u' :: rest => do
    let (unit, rest) ← hexUnit? rest
    if 0xd800 ≤ unit ∧ unit ≤ 0xdbff then
      match rest with
      | '\\' :: 'u' :: more =>
        match hexUnit? more with
        | some (low, after) =>
          if 0xdc00 ≤ low ∧ low ≤ 0xdfff then
            return (.char (Char.ofNat (0x10000 + (unit - 0xd800) * 1024 + (low - 0xdc00))), after)
          else return (.half, rest)
        | none => return (.half, rest)
      | _ => return (.half, rest)
    else if 0xdc00 ≤ unit ∧ unit ≤ 0xdfff then return (.half, rest)
    else return (.char (Char.ofNat unit), rest)
  | c :: rest => (letterEscape? c).map fun c => (.char c, rest)
  | [] => none

/-- The next element of a string. -/
def readPart (cs : List Char) : Option (StringPart × List Char) :=
  match cs with
  | '"' :: rest => some (.close, rest)
  | '\\' :: rest => readEscape rest
  | c :: rest => if c.toNat < 32 then none else some (.char c, rest)
  | [] => none

/-- The text up to the closing quote, or nothing in its place when it has half a surrogate pair;
`fuel` bounds the number of its elements. -/
def readText : Nat → List Char → Option (Option (List Char) × List Char)
  | 0, _ => none
  | fuel + 1, cs =>
    match readPart cs with
    | none => none
    | some (.close, rest) => some (some [], rest)
    | some (.char c, rest) =>
      (readText fuel rest).map fun (text, after) => (text.map (c :: ·), after)
    | some (.half, rest) => (readText fuel rest).map fun (_, after) => (none, after)

/-! ## Numbers -/

/-- The digits of a number while their value stays below `2 ^ 64`: the value, how many digits
were taken, and the rest. -/
def takeWord : Nat → List Char → Nat × Nat × List Char
  | n, c :: cs =>
    if isDigit c then
      let next := n * 10 + digitValue c
      if next < 18446744073709551616 then
        let (m, taken, rest) := takeWord next cs
        (m, taken + 1, rest)
      else (n, 0, c :: cs)
    else (n, 0, c :: cs)
  | n, [] => (n, 0, [])

/-- The number `digits * 10 ^ exponent`, rounded after each step; `fuel` bounds their number. -/
def scaleDown : Nat → Binary64 → Int → Option Binary64
  | 0, x, _ => some x
  | fuel + 1, x, exponent =>
    if -308 ≤ exponent then
      (Binary64.ofNat? (Nat.pow 10 (-exponent).toNat)).bind fun power => x.div? power
    else if x.isZero then some x
    else do
      let power ← Binary64.ofNat? (Nat.pow 10 308)
      let y ← x.div? power
      scaleDown fuel y (exponent + 308)

/-- The floating number of a word of digits and a power of ten. -/
def floating? (digits : Nat) (exponent : Int) : Option Binary64 := do
  let x ← Binary64.ofNat? digits
  if 0 ≤ exponent then
    if exponent ≤ 308 then x.mul? (← Binary64.ofNat? (Nat.pow 10 exponent.toNat))
    else if x.isZero then some x
    else none
  else scaleDown 4 x exponent

/-- The exponent part of a number: its sign and digits. -/
def readExponent (cs : List Char) : Option ((Bool × List Char) × List Char) :=
  let (down, digits) : Bool × List Char := match cs with
    | '+' :: rest => (false, rest)
    | '-' :: rest => (true, rest)
    | rest => (false, rest)
  let run := digits.takeWhile isDigit
  if run = [] then none else some ((down, run), digits.dropWhile isDigit)

/-- The value of a floating number from its digits, the power of ten that goes with them and the
exponent part, if there is one. An exponent beyond 31 bits makes zero or nothing. -/
def floatingOf (negative : Bool) (digits : Nat) (power : Int)
    (exponent : Option (Bool × List Char)) : Json :=
  match exponent with
  | none => ((floating? digits power).map (real negative)).getD .unreadable
  | some (down, run) =>
    let e := value run
    if e ≤ 2147483647 then
      let total : Int := if down then power - e else power + e
      ((floating? digits total).map (real negative)).getD .unreadable
    else if digits ≠ 0 ∧ down = false then .unreadable
    else .real negative ⟨0, -1074⟩

/-- A number after its sign: its value and what follows. -/
def readUnsigned (negative : Bool) (cs : List Char) : Option (Json × List Char) :=
  let whole := cs.takeWhile isDigit
  let rest := cs.dropWhile isDigit
  match whole with
  | [] => none
  | '0' :: _ :: _ => none
  | _ =>
    let (word, taken, _) := takeWord 0 whole
    let dropped : Int := (whole.length - taken : Nat)
    let exponentAfter (digits : Nat) (power : Int) (cs : List Char) : Option (Json × List Char) :=
      match cs with
      | c :: after =>
        if c = 'e' ∨ c = 'E' then
          (readExponent after).map fun (e, rest) =>
            (floatingOf negative digits power (some e), rest)
        else some (floatingOf negative digits power none, cs)
      | [] => some (floatingOf negative digits power none, [])
    match rest with
    | '.' :: after =>
      let fraction := after.takeWhile isDigit
      if fraction = [] then none
      else
        let (digits, used) : Nat × Nat :=
          let (d, t, _) := takeWord word fraction
          (d, t)
        exponentAfter digits (dropped - used) (after.dropWhile isDigit)
    | c :: _ =>
      if c = 'e' ∨ c = 'E' then exponentAfter word dropped rest
      else some (plain word dropped, rest)
    | [] => some (plain word dropped, [])
where
  /-- A number without fraction and exponent. -/
  plain (word : Nat) (dropped : Int) : Json :=
    if 0 < dropped then floatingOf negative word dropped none
    else if negative then
      if word = 0 then .real true ⟨0, -1074⟩
      else if word ≤ 9223372036854775808 then .int (-(word : Int))
      else floatingOf true word 0 none
    else .int word

/-! ## Values -/

/-- A literal whose word has been read. -/
def literal (value : Json) (after : Option (List Char)) : Json × Option (List Char) :=
  match after with
  | some rest => (value, some rest)
  | none => (.broken, none)

/-- What follows the colon after a name that is a string. -/
def afterName (name : Json) (cs : List Char) : Option (List Char) :=
  match name, cs with
  | .str _, ':' :: rest => some rest
  | .unreadable, ':' :: rest => some rest
  | _, _ => none

mutual
/-- A value and what follows it; `fuel` bounds its depth, its parts and its strings. -/
def readValue : Nat → List Char → Json × Option (List Char)
  | 0, _ => (.broken, none)
  | fuel + 1, cs =>
    match skipGap cs with
    | '[' :: rest =>
      match skipGap rest with
      | ']' :: after => (.arr [], some after)
      | _ =>
        let (items, after) := readItems fuel rest
        (.arr items, after)
    | '{' :: rest =>
      match skipGap rest with
      | '}' :: after => (.obj [], some after)
      | _ =>
        let (members, after) := readMembers fuel rest
        (.obj members, after)
    | '"' :: rest =>
      match readText fuel rest with
      | some (some text, after) => (.str (String.ofList text), some after)
      | some (none, after) => (.unreadable, some after)
      | none => (.broken, none)
    | '-' :: rest =>
      match readUnsigned true rest with
      | some (number, after) => (number, some after)
      | none => (.broken, none)
    | 'n' :: rest => literal .null (afterWord ['u', 'l', 'l'] rest)
    | 't' :: rest => literal (.bool true) (afterWord ['r', 'u', 'e'] rest)
    | 'f' :: rest => literal (.bool false) (afterWord ['a', 'l', 's', 'e'] rest)
    | text =>
      match readUnsigned false text with
      | some (number, after) => (number, some after)
      | none => (.broken, none)

/-- The items of a list from the next one on, up to the closing bracket. -/
def readItems : Nat → List Char → List Json × Option (List Char)
  | 0, _ => ([.broken], none)
  | fuel + 1, cs =>
    match readValue fuel cs with
    | (item, none) => ([item], none)
    | (item, some after) =>
      match skipGap after with
      | ']' :: rest => ([item], some rest)
      | ',' :: rest =>
        let (items, rest) := readItems fuel rest
        (item :: items, rest)
      | _ => ([item, .broken], none)

/-- The members of an object from the next one on, up to the closing brace. -/
def readMembers : Nat → List Char → List (Json × Json) × Option (List Char)
  | 0, _ => ([(.broken, .broken)], none)
  | fuel + 1, cs =>
    match readValue fuel cs with
    | (name, none) => ([(name, .broken)], none)
    | (name, some after) =>
      match afterName name (skipGap after) with
      | none => ([(name, .broken)], none)
      | some rest =>
        match readValue fuel rest with
        | (value, none) => ([(name, value)], none)
        | (value, some after) =>
          match skipGap after with
          | '}' :: rest => ([(name, value)], some rest)
          | ',' :: rest =>
            let (members, rest) := readMembers fuel rest
            ((name, value) :: members, rest)
          | _ => ([(name, value), (.broken, .broken)], none)
end
/-- The value at the start of a text, and what follows it. -/
def readText? (cs : List Char) : Json × Option (List Char) :=
  readValue (2 * cs.length + 2) cs

/-- The value of a text that has nothing after it but blanks; other texts are broken. -/
def ofText (s : String) : Json :=
  match readText? s.toList with
  | (j, some rest) => if skipGap rest = [] then j else .broken
  | (_, none) => .broken

end IncidentWatch.Json

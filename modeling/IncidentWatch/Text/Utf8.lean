/-!
# Bytes read as text

Text is encoded in bytes so that a character takes one to four of them, and the
first byte tells how many. Bytes that do not encode a character are read as the
replacement character: one for each byte, or beginning of a character, that
cannot go on.
-/

set_option autoImplicit false

namespace IncidentWatch.Text

/-- What stands for bytes that encode nothing. -/
def replacement : Char := '\uFFFD'

/-- A character that is not complete: how many bytes are missing, the value of those that were
read, and the bounds of the next one. -/
structure Partial where
  missing : Nat
  value : Nat
  low : Nat
  high : Nat

/-- What a byte at the start of a character leads to. -/
def firstByte (b : Nat) : Option Partial × List Char :=
  let later (missing value low high : Nat) : Option Partial × List Char :=
    (some ⟨missing, value, low, high⟩, [])
  if b < 0x80 then (none, [Char.ofNat b])
  else if 0xc2 ≤ b ∧ b ≤ 0xdf then later 1 (b - 0xc0) 0x80 0xbf
  else if b = 0xe0 then later 2 0 0xa0 0xbf
  else if b = 0xed then later 2 0xd 0x80 0x9f
  else if 0xe1 ≤ b ∧ b ≤ 0xef then later 2 (b - 0xe0) 0x80 0xbf
  else if b = 0xf0 then later 3 0 0x90 0xbf
  else if 0xf1 ≤ b ∧ b ≤ 0xf3 then later 3 (b - 0xf0) 0x80 0xbf
  else if b = 0xf4 then later 3 4 0x80 0x8f
  else (none, [replacement])

/-- What a byte after the beginning of a character leads to. -/
def nextByte (p : Partial) (b : Nat) : Option Partial × List Char :=
  if p.low ≤ b ∧ b ≤ p.high then
    let value := 64 * p.value + (b - 0x80)
    if p.missing ≤ 1 then (none, [Char.ofNat value])
    else (some ⟨p.missing - 1, value, 0x80, 0xbf⟩, [])
  else
    let (state, chars) := firstByte b
    (state, replacement :: chars)

/-- The text of bytes, after the beginning of a character. -/
def readBytes : Option Partial → List Nat → List Char
  | none, [] => []
  | some _, [] => [replacement]
  | none, b :: rest =>
    let (state, chars) := firstByte b
    chars ++ readBytes state rest
  | some p, b :: rest =>
    let (state, chars) := nextByte p b
    chars ++ readBytes state rest

/-- The text of bytes. -/
def ofBytes (bytes : List Nat) : String :=
  String.ofList (readBytes none bytes)

end IncidentWatch.Text

import IncidentWatch.Json.Basic
import IncidentWatch.Text.Quoted

/-!
# Writing JSON

Values are written without blanks, members in their order. In a string the quote,
the backslash and the controls are escaped, the common controls by a letter and
the others by four hexadecimal digits; every other character stands for itself.
-/

set_option autoImplicit false

namespace IncidentWatch.Json

open Text

/-- The escape of a code point below 65536 by four hexadecimal digits. -/
def unitEscape (n : Nat) : List Char :=
  let digits := hexadecimal n
  '\\' :: 'u' :: List.replicate (4 - digits.length) '0' ++ digits

/-- A character inside a string. -/
def writeChar (c : Char) : List Char :=
  if c = '"' then ['\\', '"']
  else if c = '\\' then ['\\', '\\']
  else if c = '\x08' then ['\\', 'b']
  else if c = '\x0c' then ['\\', 'f']
  else if c = '\n' then ['\\', 'n']
  else if c = '\r' then ['\\', 'r']
  else if c = '\t' then ['\\', 't']
  else if c.toNat < 32 then unitEscape c.toNat
  else [c]

/-- A string between its quotes. -/
def writeString (s : String) : List Char :=
  '"' :: s.toList.flatMap writeChar ++ ['"']

mutual
/-- A value as it is written. -/
def write : Json → List Char
  | .null => ['n', 'u', 'l', 'l']
  | .bool true => ['t', 'r', 'u', 'e']
  | .bool false => ['f', 'a', 'l', 's', 'e']
  | .int i => signed i
  | .real negative x => (if negative then ['-'] else []) ++ x.render
  | .str s => writeString s
  | .arr items => '[' :: writeItems items ++ [']']
  | .obj members => '{' :: writeMembers members ++ ['}']
  | .unreadable => []
  | .broken => []

/-- The items of a list with commas between them. -/
def writeItems : List Json → List Char
  | [] => []
  | [item] => item.write
  | item :: next :: rest => item.write ++ ',' :: writeItems (next :: rest)

/-- The members of an object with commas between them. -/
def writeMembers : List (Json × Json) → List Char
  | [] => []
  | [(name, value)] => name.write ++ ':' :: value.write
  | (name, value) :: next :: rest =>
    name.write ++ ':' :: value.write ++ ',' :: writeMembers (next :: rest)
end

/-- The written form as a string. -/
def render (j : Json) : String :=
  String.ofList j.write

end IncidentWatch.Json

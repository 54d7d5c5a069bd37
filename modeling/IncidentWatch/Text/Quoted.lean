import IncidentWatch.Text.Printable
import IncidentWatch.Text.Extending

/-!
# Quoted text

Text that is shown inside a message stands between double quotes, with every
character escaped that would be lost or misread there: quotes and backslashes,
the usual controls by their letters, and whatever has no form of its own by its
code point in hexadecimal. The other characters stand for themselves.
-/

set_option autoImplicit false

namespace IncidentWatch.Text

/-- The hexadecimal digit of a value below sixteen. -/
def hexDigit (n : Nat) : Char :=
  if n < 10 then Char.ofNat (48 + n) else Char.ofNat (87 + n)

/-- A number in hexadecimal, without leading zeros. -/
def hexadecimal (n : Nat) : List Char :=
  if n < 16 then [hexDigit n] else hexadecimal (n / 16) ++ [hexDigit (n % 16)]
termination_by n

/-- The escape of a character by its code point. -/
def pointEscape (c : Char) : List Char :=
  '\\' :: 'u' :: '{' :: hexadecimal c.toNat ++ ['}']

/-- A character as it stands between quotes. -/
def quoteChar (c : Char) : List Char :=
  if c = '\x00' then ['\\', '0']
  else if c = '\t' then ['\\', 't']
  else if c = '\r' then ['\\', 'r']
  else if c = '\n' then ['\\', 'n']
  else if c = '\\' then ['\\', '\\']
  else if c = '"' then ['\\', '"']
  else if isExtending c || !isPrintable c then pointEscape c
  else [c]

/-- A text between double quotes. -/
def quoted (s : String) : String :=
  String.ofList ('"' :: s.toList.flatMap quoteChar ++ ['"'])

/-- A list of texts, each quoted, between square brackets. -/
def quotedList (items : List String) : String :=
  "[" ++ ", ".intercalate (items.map quoted) ++ "]"

end IncidentWatch.Text

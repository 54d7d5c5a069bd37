import IncidentWatch.Store.Basic
import IncidentWatch.Text.Utf8

/-!
# Queries in addresses

The part of an address after the question mark is a list of names and values,
separated by ampersands. A plus sign stands for a space and a percent sign with
two hexadecimal digits for a byte. A listing of incidents can be restricted by
such a query: each known name may stand once, and unknown ones are passed over.
-/

set_option autoImplicit false

namespace IncidentWatch.Api

open Text

/-- The value of a hexadecimal digit. -/
def hexDigit? (c : Char) : Option Nat :=
  if '0' ≤ c ∧ c ≤ '9' then some (c.toNat - 48)
  else if 'a' ≤ c ∧ c ≤ 'f' then some (c.toNat - 87)
  else if 'A' ≤ c ∧ c ≤ 'F' then some (c.toNat - 55)
  else none

/-- The bytes that a character of a query stands for. -/
def charBytes (c : Char) : List Nat :=
  if c = '+' then [32] else (String.utf8EncodeChar c).map (·.toNat)

/-- The bytes that a part of a query stands for. -/
def partBytes : List Char → List Nat
  | '%' :: a :: b :: rest =>
    match hexDigit? a, hexDigit? b with
    | some high, some low => (16 * high + low) :: partBytes rest
    | _, _ => charBytes '%' ++ partBytes (a :: b :: rest)
  | c :: rest => charBytes c ++ partBytes rest
  | [] => []

/-- The text that a part of a query stands for. -/
def partText (cs : List Char) : String :=
  ofBytes (partBytes cs)

/-- Cuts a text at each occurrence of a character. -/
def splitAll (separator : Char) : List Char → List (List Char)
  | [] => [[]]
  | c :: rest =>
    match splitAll separator rest with
    | [] => []
    | piece :: pieces => if c = separator then [] :: piece :: pieces else (c :: piece) :: pieces

/-- The names and values of a query; empty parts do not count. -/
def readPairs (query : List Char) : List (String × String) :=
  ((splitAll '&' query).filter (· ≠ [])).map fun part =>
    (partText (part.takeWhile (· ≠ '=')), partText ((part.dropWhile (· ≠ '=')).drop 1))

/-- What a listing of incidents is restricted to. -/
structure IncidentQuery where
  status : Option Status := none
  release : Option String := none
  namespaceName : Option String := none
  page : Option UInt64 := none
  pageSize : Option UInt64 := none
  deriving DecidableEq, Repr

namespace IncidentQuery

/-- The largest page that is answered. -/
def maxPageSize : UInt64 := 500

/-- The value of a name, which may not stand twice. -/
def value? (pairs : List (String × String)) (name : String) : Option (Option String) :=
  match pairs.filter (·.1 = name) with
  | [] => some none
  | [(_, value)] => some (some value)
  | _ => none

/-- The value of a name as a number. -/
def number? (pairs : List (String × String)) (name : String) : Option (Option UInt64) := do
  match ← value? pairs name with
  | none => return none
  | some text => return some (UInt64.ofNat (← unsigned? uint64Max text.toList))

/-- The query that names and values make, if they make one. -/
def ofPairs? (pairs : List (String × String)) : Option IncidentQuery := do
  let status ← match ← value? pairs "status" with
    | none => pure none
    | some text => (Status.named.lookup text).map some
  let release ← value? pairs "release"
  let namespaceName ← value? pairs "namespace"
  let page ← number? pairs "page"
  let pageSize ← number? pairs "page_size"
  return { status, release, namespaceName, page, pageSize }

def filter (q : IncidentQuery) : IncidentFilter :=
  ⟨q.status, q.release, q.namespaceName⟩

def pagination (q : IncidentQuery) : Pagination :=
  .ofPage (q.page.getD 1) (min (q.pageSize.getD Pagination.defaultSize) maxPageSize)

end IncidentQuery

end IncidentWatch.Api

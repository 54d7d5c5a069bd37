import IncidentWatch.ByName
import IncidentWatch.Json.Parser
import IncidentWatch.Json.Printer
import IncidentWatch.Instant.Parser

/-!
# Decoding values

A decoder takes a tree to a typed value or says what is wrong with it. A record
is written as an object, whose members may come in any order, or as the list of
its fields. The members are taken in the order of the text, so that of two
problems the first one is reported; a field that is missing is noticed at the
end. Unknown members are skipped, a known one may not be repeated.

A field is required, or nullable, which makes a missing one nothing, or has a
default, and then it may also be left out at the end of the list form.
-/

set_option autoImplicit false

namespace IncidentWatch

/-- What is wrong with a text that should denote a typed value. -/
inductive DecodeError where
  | malformed
  | wrongType (found expected : String)
  | outOfRange (i : Int) (expected : String)
  | missingField (name : String)
  | duplicateField (name : String)
  | unknownVariant (name : String) (known : List String)
  | wrongLength (length : Nat) (title : String) (fields : Nat)
  | noInstant
  deriving DecidableEq, Repr

namespace DecodeError

/-- A name between backticks. -/
def ticked (name : String) : String :=
  "`" ++ name ++ "`"

/-- The variants that a name should have been one of. -/
def oneOf (known : List String) : String :=
  match known with
  | [] => "there are no variants"
  | [a] => "expected " ++ ticked a
  | [a, b] => "expected " ++ ticked a ++ " or " ++ ticked b
  | _ => "expected one of " ++ ", ".intercalate (known.map ticked)

/-- What is reported of an error; of a text that is not JSON, nothing. -/
def message? : DecodeError → Option String
  | .malformed => none
  | .wrongType found expected => some ("invalid type: " ++ found ++ ", expected " ++ expected)
  | .outOfRange i expected =>
    some ("invalid value: integer " ++ ticked (toString i) ++ ", expected " ++ expected)
  | .missingField name => some ("missing field " ++ ticked name)
  | .duplicateField name => some ("duplicate field " ++ ticked name)
  | .unknownVariant name known =>
    some ("unknown variant " ++ ticked name ++ ", " ++ oneOf known)
  | .wrongLength length title fields =>
    some ("invalid length " ++ toString length ++ ", expected struct " ++ title ++ " with "
      ++ toString fields ++ (if fields = 1 then " element" else " elements"))
  | .noInstant => some "invalid timestamp"

end DecodeError

/-- Takes a tree to a value of a type. -/
abbrev Decoder (α : Type) := Json → Except DecodeError α

namespace Decode

open DecodeError

/-- What a tree is called where something else was expected. -/
def foundName : Json → String
  | .null => "null"
  | .bool b => "boolean " ++ ticked (if b then "true" else "false")
  | .int i => "integer " ++ ticked (toString i)
  | .real negative x =>
    "floating point " ++ ticked ((if negative then "-" else "") ++ String.ofList x.render)
  | .str s => "string " ++ Text.quoted s
  | .arr _ => "sequence"
  | .obj _ => "map"
  | .unreadable => ""
  | .broken => ""

/-- The error of a tree that is not of the expected type. -/
def mismatch (expected : String) : Json → DecodeError
  | .unreadable => .malformed
  | .broken => .malformed
  | j => .wrongType (foundName j) expected

/-- Passes over a tree that nobody reads. -/
def skip : Decoder Unit := fun j =>
  if j.isWhole then .ok () else .error .malformed

def string : Decoder String
  | .str s => .ok s
  | j => .error (mismatch "a string" j)

def bool : Decoder Bool
  | .bool b => .ok b
  | j => .error (mismatch "a boolean" j)

/-- An integer between two bounds. -/
def integer (expected : String) (low high : Int) : Decoder Int
  | .int i => if low ≤ i ∧ i ≤ high then .ok i else .error (.outOfRange i expected)
  | j => .error (mismatch expected j)

def int32 : Decoder Int32 := fun j =>
  (integer "i32" (-2147483648) 2147483647 j).map Int32.ofInt

def int64 : Decoder Int64 := fun j =>
  (integer "i64" (-9223372036854775808) 9223372036854775807 j).map Int64.ofInt

def uint32 : Decoder UInt32 := fun j =>
  (integer "u32" 0 4294967295 j).map fun i => UInt32.ofNat i.toNat

def size : Decoder UInt64 := fun j =>
  (integer "usize" 0 18446744073709551615 j).map fun i => UInt64.ofNat i.toNat

def instant : Decoder Instant
  | .str s =>
    match Instant.parse? s with
    | some t => .ok t
    | none => .error .noInstant
  | j => .error (mismatch "an RFC 3339 formatted date and time string" j)

/-- Null or a value. -/
def option {α : Type} (d : Decoder α) : Decoder (Option α)
  | .null => .ok none
  | j => (d j).map some

def list {α : Type} (d : Decoder α) : Decoder (List α)
  | .arr items => items.mapM d
  | j => .error (mismatch "a sequence" j)

/-- An object of values by name; of a repeated name the last counts. -/
def byName {α : Type} (d : Decoder α) : Decoder (ByName α)
  | .obj members =>
    members.foldlM (fun found (key, value) => do
      match key with
      | .str name => return found.insert name (← d value)
      | _ => .error .malformed) .empty
  | j => .error (mismatch "a map" j)

/-! ## Variants -/

/-- The variant's name and what it holds, if it is written as an object with the one member. -/
def variantParts : Json → Except DecodeError (String × Option (Json × Bool))
  | .str name => .ok (name, none)
  | .obj ((.str name, value) :: rest) => .ok (name, some (value, rest.isEmpty))
  | .obj ((key, _) :: _) => .error (mismatch "variant identifier" key)
  | _ => .error .malformed

/-- Nothing, as it is written in a variant that holds nothing. -/
def unit : Decoder Unit
  | .null => .ok ()
  | j => .error (mismatch "unit" j)

/-- What a variant holds, when it has to be the only member. -/
def soleMember {α : Type} (d : Decoder α) (value : Json) (alone : Bool) : Except DecodeError α := do
  let a ← d value
  if alone then return a else .error .malformed

/-- One of finitely many named constants. -/
def constant {α : Type} (known : List (String × α)) : Decoder α := fun j => do
  let (name, held) ← variantParts j
  match known.lookup name with
  | none => .error (.unknownVariant name (known.map (·.1)))
  | some a =>
    match held with
    | none => return a
    | some (value, alone) =>
      soleMember unit value alone
      return a

/-! ## Records -/

/-- What is done when a field is missing. -/
inductive Absence (α : Type) where
  | refused
  | nothing (a : α)
  | default (a : α)

/-- A field as the reader of a record meets it. -/
structure Slot where
  name : String
  check : Json → Except DecodeError Unit
  omissible : Bool

/-- How the fields of a record are found, and the value made of them. -/
structure Fields (α : Type) where
  slots : List Slot
  build : (String → Option Json) → Except DecodeError α

namespace Fields

/-- A record without fields. -/
def none {α : Type} (a : α) : Fields α := ⟨[], fun _ => .ok a⟩

/-- The value of one field. -/
def fieldValue {α : Type} (find : String → Option Json) (name : String) (d : Decoder α)
    (absence : Absence α) : Except DecodeError α :=
  match find name, absence with
  | some j, _ => d j
  | .none, .refused => .error (.missingField name)
  | .none, .nothing a => .ok a
  | .none, .default a => .ok a

/-- A further field. -/
def field {α β : Type} (f : Fields (α → β)) (name : String) (d : Decoder α)
    (absence : Absence α) : Fields β where
  slots := f.slots ++
    [⟨name, fun j => (d j).map fun _ => (),
      match absence with | .default _ => true | _ => false⟩]
  build find := do
    let g ← f.build find
    return g (← fieldValue find name d absence)

/-- A further field that must be there. -/
def required {α β : Type} (f : Fields (α → β)) (name : String) (d : Decoder α) : Fields β :=
  f.field name d .refused

/-- A further field that may be null or missing. -/
def nullable {α β : Type} (f : Fields (Option α → β)) (name : String) (d : Decoder α) : Fields β :=
  f.field name (option d) (.nothing .none)

/-- A further field with a default. -/
def defaulted {α β : Type} (f : Fields (α → β)) (name : String) (d : Decoder α) (a : α) :
    Fields β :=
  f.field name d (.default a)

/-- Goes through the members in the order of the text and keeps those of known names. -/
def collect (slots : List Slot) :
    List (Json × Json) → List (String × Json) → Except DecodeError (List (String × Json))
  | [], found => .ok found
  | (.str name, value) :: rest, found =>
    match slots.find? (·.name == name) with
    | .none => do
      skip value
      collect slots rest found
    | some slot => do
      if (found.lookup name).isSome then .error (.duplicateField name)
      slot.check value
      collect slots rest (found ++ [(name, value)])
  | _ :: _, _ => .error .malformed

/-- Pairs the items of a list with the fields in their order. -/
def pair (title : String) (total : Nat) :
    List Slot → List Json → List (String × Json) → Except DecodeError (List (String × Json))
  | [], [], found => .ok found
  | [], _ :: _, _ => .error .malformed
  | slot :: slots, [], found =>
    if slot.omissible then pair title total slots [] found
    else .error (.wrongLength (total - (slots.length + 1)) title total)
  | slot :: slots, item :: items, found => do
    slot.check item
    pair title total slots items (found ++ [(slot.name, item)])

/-- The decoder of a record. -/
def record {α : Type} (title : String) (f : Fields α) : Decoder α
  | .obj members => do
    let found ← collect f.slots members []
    f.build fun name => found.lookup name
  | .arr items => do
    let found ← pair title f.slots.length f.slots items []
    f.build fun name => found.lookup name
  | j => .error (mismatch ("struct " ++ title) j)

end Fields

/-! ## Texts -/

/-- Decodes a text that has nothing but blanks after the value. -/
def text {α : Type} (d : Decoder α) (s : String) : Except DecodeError α := do
  let (j, rest) := Json.readText? s.toList
  let a ← d j
  if rest.map Json.skipGap = some [] then return a else .error .malformed

/-- Decodes the value at the start of a text, whatever comes after it. -/
def textStart {α : Type} (d : Decoder α) (s : String) : Except DecodeError α :=
  d (Json.readText? s.toList).1

end Decode

end IncidentWatch

import IncidentWatch.Number.Binary64

/-!
# Values read from text

A text in JSON is read into a tree even when it is not well formed: where the
text stops being JSON the tree has the leaf `broken`, after which nothing
follows, and a literal of the right shape that denotes nothing, such as half of
a surrogate pair or a number beyond all bounds, is the leaf `unreadable`. So a
reader that goes through the tree in order meets the first problem of the text
first, and one that skips a part may skip what it could not read.

The names of an object's members are kept as values, since a broken text may
have something else in the place of a name.
-/

set_option autoImplicit false

namespace IncidentWatch

/-- What a text in JSON says. -/
inductive Json where
  | null
  | bool (b : Bool)
  | int (i : Int)
  | real (negative : Bool) (x : Binary64)
  | str (s : String)
  | arr (items : List Json)
  | obj (members : List (Json × Json))
  | unreadable
  | broken

namespace Json

/-- An object with named members. -/
def object (members : List (String × Json)) : Json :=
  .obj (members.map fun (name, value) => (.str name, value))

mutual
/-- Whether the text was JSON to the end of the value. -/
def isWhole : Json → Bool
  | .broken => false
  | .arr items => areWhole items
  | .obj members => areWholeMembers members
  | _ => true

/-- Whether all values of a list are whole. -/
def areWhole : List Json → Bool
  | [] => true
  | item :: rest => item.isWhole && areWhole rest

/-- Whether all members of a list are whole. -/
def areWholeMembers : List (Json × Json) → Bool
  | [] => true
  | (name, value) :: rest => name.isWhole && value.isWhole && areWholeMembers rest
end

/-- The value of the last member of a name, if the value is an object that has one. -/
def member? (name : String) : Json → Option Json
  | .obj members =>
    members.foldl (fun found (key, value) =>
      match key with
      | .str s => if s = name then some value else found
      | _ => found) none
  | _ => none

/-- The text of a string. -/
def string? : Json → Option String
  | .str s => some s
  | _ => none

/-- The truth value of a literal. -/
def bool? : Json → Option Bool
  | .bool b => some b
  | _ => none

/-- The items of a list. -/
def items? : Json → Option (List Json)
  | .arr items => some items
  | _ => none

/-- The named members of an object. -/
def members? : Json → Option (List (String × Json))
  | .obj members => members.mapM fun (key, value) => key.string?.map fun name => (name, value)
  | _ => none

end Json

end IncidentWatch

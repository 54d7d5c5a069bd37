import IncidentWatch.Settings.Environment

/-!
# Media types

A media type is two words of letters, digits and a few signs with a slash between
them, and parameters after semicolons. The second word may have a suffix after a
plus sign. Case does not count. A body is taken as JSON when its type is that of
JSON or has it as its suffix.
-/

set_option autoImplicit false

namespace IncidentWatch.Api

/-- A character that words are made of. -/
def isTokenChar (c : Char) : Bool :=
  c.isAlphanum || "!#$%&'*+-.^_`|~".toList.contains c

/-- A character that can stand between quotes. -/
def isQuotableChar (c : Char) : Bool :=
  c.toNat > 31 && c.toNat ≠ 127 && c.toNat < 256

/-- Whether a text is a list of parameters; each turn takes at least one character. -/
def areParameters : Nat → List Char → Bool
  | 0, _ => false
  | _, [] => true
  | turns + 1, cs =>
    match cs.dropWhile (· = ' ') with
    | [] => true
    | named =>
      let name := named.takeWhile isTokenChar
      match name, named.drop name.length with
      | _ :: _, '=' :: '"' :: quoted =>
        let inside := quoted.takeWhile fun c => c ≠ '"' && isQuotableChar c
        match inside, quoted.drop inside.length with
        | _ :: _, '"' :: after =>
          match after.dropWhile (· = ' ') with
          | [] => true
          | ';' :: rest => areParameters turns rest
          | _ => false
        | _, _ => false
      | _ :: _, '=' :: plain =>
        let value := plain.takeWhile isTokenChar
        match value, plain.drop value.length with
        | _, [] => true
        | _ :: _, ';' :: rest => areParameters turns rest
        | _, _ => false
      | _, _ => false

/-- Whether a second word is that of JSON, or has it as its suffix. -/
def namesJson (word : String) : Bool :=
  let cs := word.toList
  let reversed := cs.reverse
  let suffix := (reversed.takeWhile (· ≠ '+')).reverse
  let stem := ((reversed.dropWhile (· ≠ '+')).drop 1).reverse
  if cs.contains '+' then String.ofList stem = "json" || String.ofList suffix = "json"
  else word = "json"

/-- Whether a body of a media type is taken as JSON. -/
def isJsonType (contentType : String) : Bool :=
  let cs := contentType.toList.map Environment.small
  let first := cs.takeWhile isTokenChar
  match cs.drop first.length with
  | '/' :: afterSlash =>
    let second := afterSlash.takeWhile isTokenChar
    let wellFormed := match afterSlash.drop second.length with
      | [] => true
      | ';' :: parameters => areParameters (parameters.length + 1) parameters
      | _ => false
    String.ofList first = "application" && namesJson (String.ofList second) && wellFormed
  | _ => false

end IncidentWatch.Api

import IncidentWatch.ByName
import IncidentWatch.Log
import IncidentWatch.Rule.Catalogue

/-!
# The book of rules

A book holds one table for each version, under the version as the table spells
it. A table is looked up under the minor version that a spelling names, so a
table that spells its own version otherwise is never found.
-/

set_option autoImplicit false

namespace IncidentWatch

/-- Tables by version. -/
structure RuleBook where
  tables : ByName RuleTable

namespace RuleBook

def empty : RuleBook := ⟨.empty⟩

/-- Takes in a table, in place of one of the same version. -/
def insert (b : RuleBook) (t : RuleTable) : RuleBook :=
  ⟨b.tables.insert t.version t⟩

/-- The table of the minor version that a spelling names. -/
def table? (b : RuleBook) (version : String) : Option RuleTable := do
  b.tables.get? (← Version.normalize? version)

/-- The versions with a table, in order. -/
def versions (b : RuleBook) : List String :=
  b.tables.names

/-- What an event means to a cluster of a version; without a table, nothing. -/
def classify (b : RuleBook) (version : String) (e : Event) : Option Classification := do
  (← b.table? version).classify e

/-- The book of the catalogue. -/
def builtin : RuleBook :=
  Catalogue.supportedVersions.foldl (fun book version =>
    match RuleTable.ofSpecs version (Catalogue.specs version) with
    | .ok t => book.insert t
    | .error _ => book) empty

end RuleBook

/-- A book read for one version. -/
structure Classifier where
  book : RuleBook
  version : String

namespace Classifier

def classify (c : Classifier) (e : Event) : Option Classification :=
  c.book.classify c.version e

/-- What is logged of a classifier when it is made: a version without a table is worth a warning. -/
def openingLog (c : Classifier) : List LogEntry :=
  if (c.book.table? c.version).isSome then []
  else [.warn "No rule table for cluster version, no events will be classified"
    [("version", .str c.version), ("supported", .str (Text.quotedList c.book.versions))]]

end Classifier

end IncidentWatch

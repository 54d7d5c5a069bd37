import IncidentWatch.ByName
import IncidentWatch.Store.Basic

/-!
# The numbered store

A table keeps incidents under their ids and gives them back in an order of its
own. So each incident has a number, the next one when it was created, which an
update leaves it; listings sort what the table gives them by these numbers.
-/

set_option autoImplicit false

namespace IncidentWatch

/-- An incident with the number of its creation. -/
structure Numbered where
  number : UInt64
  incident : Incident

/-- Incidents under their ids, and the number of the next one. -/
structure NumberedStore where
  table : ByName Numbered
  next : UInt64

namespace NumberedStore

/-- The store of nothing. -/
def empty : NumberedStore := ⟨.empty, 0⟩

/-- What the table gives when it is gone through: its records, in some order. -/
def Gives (n : NumberedStore) (given : List Numbered) : Prop :=
  given.Perm (n.table.entries.map (·.2))

/-- The incidents of records, by their numbers. -/
def inOrder (records : List Numbered) : List Incident :=
  (records.mergeSort fun a b => a.number ≤ b.number).map (·.incident)

/-- Puts an incident of a new id under the next number. -/
def create (n : NumberedStore) (i : Incident) : Except StoreError NumberedStore :=
  match n.table.get? i.id with
  | some _ => .error (.backend ("incident " ++ i.id ++ " already exists"))
  | none => .ok ⟨n.table.insert i.id ⟨n.next, i⟩, n.next + 1⟩

/-- Replaces the incident of the same id, which keeps its number. -/
def update (n : NumberedStore) (i : Incident) : Except StoreError NumberedStore :=
  match n.table.get? i.id with
  | some old => .ok { n with table := n.table.insert i.id { old with incident := i } }
  | none => .error (.notFound i.id)

/-- The incident of an id, which must be there. -/
def read (n : NumberedStore) (id : String) : Except StoreError Incident :=
  match n.table.get? id with
  | some found => .ok found.incident
  | none => .error (.notFound id)

/-- All incidents of the records that the table gave. -/
def snapshot (given : List Numbered) : List Incident :=
  inOrder given

/-- The page of the incidents that a filter accepts, of the records that the table gave. -/
def list (given : List Numbered) (f : IncidentFilter) (p : Pagination) :
    Except Fault (Page Incident) :=
  Page.ofList (inOrder (given.filter (f.accepts ·.incident))) p

end NumberedStore

end IncidentWatch

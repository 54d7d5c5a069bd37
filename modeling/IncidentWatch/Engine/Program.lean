import IncidentWatch.Cluster.Rollout
import IncidentWatch.Engine.Outcome
import IncidentWatch.Health.Basic
import IncidentWatch.Incident.View
import IncidentWatch.Log
import IncidentWatch.Metric

/-!
# Programs over the collaborators

The engine works by asking its collaborators: the store, the cluster, the
notifier, the locks, the log. A program is the tree of what it asks: a request,
and for every answer how it goes on. Whoever runs programs gives the answers, one
request at a time, and may run others in between.

Work is a program that can fail. Work under a lock takes the lock of a release,
does what it has to do and gives the lock back, however it ends.
-/

set_option autoImplicit false

namespace IncidentWatch

/-- What a program can ask for. Questions to the cluster have a limit in milliseconds. -/
inductive Request where
  | lock (release : ReleaseKey)
  | unlock (release : ReleaseKey)
  | pruneLocks
  | create (i : Incident)
  | update (i : Incident)
  | read (id : String)
  | list (f : IncidentFilter) (p : Pagination)
  | owner (pod : PodRef) (limit : Nat)
  | rollout (namespaceName name : String) (limit : Nat)
  | deliver (kind : AlertKind) (view : IncidentView)
  | log (entry : LogEntry)
  | measure (m : Measure)
  | succeeded (c : Component)
  | failed (c : Component) (text : String)
  | health
  | freshId

/-- What a request is answered with. -/
abbrev Request.Answer : Request → Type
  | lock _ => Unit
  | unlock _ => Unit
  | pruneLocks => Unit
  | create _ => Except StoreError Unit
  | update _ => Except StoreError Unit
  | read _ => Except StoreError Incident
  | list _ _ => Except StoreError (Page Incident)
  | owner _ _ => Except QueryError OwnerRef
  | rollout _ _ _ => Except QueryError RolloutHealth
  | deliver _ _ => Except String Unit
  | log _ => Unit
  | measure _ => Unit
  | succeeded _ => Unit
  | failed _ _ => Unit
  | health => HealthRegistry
  | freshId => String

/-- A tree of requests that ends in a value or in a fault. -/
inductive Program (α : Type) where
  | done (a : α)
  | halt (fault : Fault)
  | ask (r : Request) (next : r.Answer → Program α)

namespace Program

variable {α β : Type}

/-- Goes on with the value of a program. -/
def andThen (p : Program α) (next : α → Program β) : Program β :=
  match p with
  | done a => next a
  | halt fault => .halt fault
  | ask r k => .ask r fun answer => (k answer).andThen next

instance : Monad Program where
  pure := done
  bind := andThen

theorem andThen_done (p : Program α) : p.andThen done = p := by
  induction p with
  | done a => rfl
  | halt fault => rfl
  | ask r k ih => simp only [andThen, ih]

theorem andThen_assoc {γ : Type} (p : Program α) (f : α → Program β) (g : β → Program γ) :
    (p.andThen f).andThen g = p.andThen fun a => (f a).andThen g := by
  induction p with
  | done a => rfl
  | halt fault => rfl
  | ask r k ih => simp only [andThen, ih]

/-- Asks one thing. -/
def request (r : Request) : Program r.Answer :=
  .ask r .done

/-- The value of arithmetic, or its fault. -/
def checked : Except Fault α → Program α
  | .ok a => .done a
  | .error fault => .halt fault

/-- Logs an entry. -/
def log (entry : LogEntry) : Program Unit :=
  request (.log entry)

/-- Counts something. -/
def count (s : Series) (amount : Nat) : Program Unit :=
  request (.measure (.add s amount))

end Program

/-- A program that can fail. -/
abbrev Work := ExceptT EngineError Program

namespace Work

variable {α : Type}

/-- The value of arithmetic, or its fault. -/
def checked (value : Except Fault α) : Work α :=
  ExceptT.lift (Program.checked value)

/-- What the store answered. -/
def ofStore (p : Program (Except StoreError α)) : Work α :=
  ExceptT.mk do
    match ← p with
    | .ok a => return .ok a
    | .error e => return .error (.persistence e)

/-- Stores a new incident. -/
def create (i : Incident) : Work Unit :=
  ofStore (Program.request (.create i))

/-- Replaces a stored incident. -/
def update (i : Incident) : Work Unit :=
  ofStore (Program.request (.update i))

/-- The stored incident of an id, if there is one. -/
def read? (id : String) : Work (Option Incident) :=
  ExceptT.mk do
    match ← Program.request (.read id) with
    | .ok i => return .ok (some i)
    | .error (.notFound _) => return .ok none
    | .error e => return .error (.persistence e)

/-- Does work under the lock of a release. -/
def underLock (release : ReleaseKey) (work : Work α) : Work α :=
  ExceptT.mk do
    Program.request (.lock release)
    let result ← work.run
    Program.request (.unlock release)
    return result

/-- Goes on to the next page, if there is one. -/
def nextPage? (page : Page Incident) (p : Pagination) : Option (Except Fault Pagination) :=
  if page.hasMore && !page.items.isEmpty then some p.next else none

theorem size_sub_nextPage_lt {page : Page Incident} {p next : Pagination}
    (h : nextPage? page p = some (.ok next)) :
    UInt64.size - next.page.toNat < UInt64.size - p.page.toNat := by
  unfold nextPage? at h
  split at h
  · exact Pagination.size_sub_next_lt (Option.some.inj h)
  · cases h

/-- The incidents that a filter accepts, from one page on. -/
def listFrom (f : IncidentFilter) (p : Pagination) : Work (List Incident) := do
  let page ← ofStore (Program.request (.list f p))
  match _h : nextPage? page p with
  | none => return page.items
  | some (.error fault) => ExceptT.lift (Program.halt fault)
  | some (.ok next) => return page.items ++ (← listFrom f next)
termination_by UInt64.size - p.page.toNat
decreasing_by
  exact size_sub_nextPage_lt _h

/-- All incidents that a filter accepts, page by page. -/
def listAll (f : IncidentFilter) (pageSize : UInt64) : Work (List Incident) :=
  listFrom f (.first pageSize)

end Work

end IncidentWatch

import IncidentWatch.Incident.Basic

/-!
# Locks on releases

Whoever changes the incidents of a release holds its lock. An entry leads from
the release to the lock, which is made when the release is asked for and has no
entry. A request stands in line at the lock that it was led to: the first in line
holds the lock, the others wait. Giving up a request lets the next one move up,
whether the request held the lock or was still waiting.

An entry stays until the entries are pruned, which drops those whose lock nobody
holds or waits for. A release that is asked for after that gets a new lock.
-/

set_option autoImplicit false

namespace IncidentWatch

/-- A request, known by a name of type `ι`, for the lock of a release, and the lock that it was led
to. -/
structure LockRequest (ι : Type) where
  name : ι
  release : ReleaseKey
  lock : Nat
  deriving DecidableEq, Repr

/-- The locks of releases. -/
structure ReleaseLocks (ι : Type) where
  /-- The releases with an entry, and the locks that they lead to. -/
  entries : List (ReleaseKey × Nat) := []
  /-- The requests that hold a lock or wait for one, oldest first. -/
  requests : List (LockRequest ι) := []
  /-- How many locks were made. -/
  made : Nat := 0

namespace ReleaseLocks

variable {ι : Type} [DecidableEq ι]

/-- No entry and no request. -/
def empty : ReleaseLocks ι := {}

/-- The lock that the entry of a release leads to. -/
def lockOf? (l : ReleaseLocks ι) (release : ReleaseKey) : Option Nat :=
  l.entries.lookup release

/-- The requests for a lock, oldest first. -/
def line (l : ReleaseLocks ι) (lock : Nat) : List (LockRequest ι) :=
  l.requests.filter (·.lock = lock)

/-- The request that holds a lock. -/
def holder? (l : ReleaseLocks ι) (lock : Nat) : Option (LockRequest ι) :=
  (l.line lock).head?

/-- Whether a request is the first in its line. -/
def isFirst (l : ReleaseLocks ι) (r : LockRequest ι) : Bool :=
  (l.holder? r.lock).map (·.name) = some r.name

/-- Whether the request of a name holds the lock that it asks for. -/
def holds (l : ReleaseLocks ι) (name : ι) : Bool :=
  l.requests.any fun r => r.name = name && l.isFirst r

/-- Sees to it that a release has an entry, and tells the lock that it leads to. -/
def enter (l : ReleaseLocks ι) (release : ReleaseKey) : Nat × ReleaseLocks ι :=
  match l.lockOf? release with
  | some lock => (lock, l)
  | none => (l.made, { l with entries := l.entries ++ [(release, l.made)], made := l.made + 1 })

/-- Puts a request in line. -/
def request (l : ReleaseLocks ι) (name : ι) (release : ReleaseKey) : ReleaseLocks ι :=
  let (lock, l) := l.enter release
  { l with requests := l.requests ++ [⟨name, release, lock⟩] }

/-- Gives up a request. -/
def release (l : ReleaseLocks ι) (name : ι) : ReleaseLocks ι :=
  { l with requests := l.requests.filter (·.name ≠ name) }

/-- Drops the entries whose locks nobody holds or waits for. -/
def prune (l : ReleaseLocks ι) : ReleaseLocks ι :=
  { l with entries := l.entries.filter fun entry => l.requests.any (·.lock = entry.2) }

/-- How many entries there are. -/
def size (l : ReleaseLocks ι) : Nat :=
  l.entries.length

/-- The requests that hold a lock, oldest first. -/
def held (l : ReleaseLocks ι) : List ι :=
  (l.requests.filter l.isFirst).map (·.name)

/-- The requests that wait, oldest first. -/
def waiting (l : ReleaseLocks ι) : List ι :=
  (l.requests.filter fun r => !l.isFirst r).map (·.name)

end ReleaseLocks

end IncidentWatch

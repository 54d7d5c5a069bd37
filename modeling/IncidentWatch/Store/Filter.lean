import IncidentWatch.Incident.Codec

/-!
# Filters on incidents

A filter names the status, the release or the namespace that an incident must
have; what it does not name is free.
-/

set_option autoImplicit false

namespace IncidentWatch

/-- What is asked of an incident in a listing. -/
structure IncidentFilter where
  status : Option Status := none
  releaseName : Option String := none
  releaseNamespace : Option String := none
  deriving DecidableEq, Repr

namespace IncidentFilter

/-- The incidents that are active. -/
def active : IncidentFilter :=
  { status := some .active }

/-- The active incidents of one release. -/
def activeFor (release : ReleaseKey) : IncidentFilter :=
  ⟨some .active, some release.name, some release.namespaceName⟩

/-- Whether an incident has all that the filter names. -/
def accepts (f : IncidentFilter) (i : Incident) : Bool :=
  f.status.all (· = i.status) && f.releaseName.all (· = i.releaseName)
    && f.releaseNamespace.all (· = i.releaseNamespace)

/-- The filter of a release accepts exactly its active incidents. -/
theorem accepts_activeFor {release : ReleaseKey} {i : Incident} :
    (activeFor release).accepts i = true ↔ i.status = .active ∧ i.releaseKey = release := by
  cases release
  simp only [accepts, activeFor, Option.all_some, Bool.and_eq_true, decide_eq_true_eq,
    Incident.releaseKey, ReleaseKey.mk.injEq]
  grind

/-- The filter for active incidents accepts exactly these. -/
theorem accepts_active {i : Incident} : active.accepts i = true ↔ i.status = .active := by
  simp only [accepts, active, Option.all_some, Option.all_none, Bool.and_true, decide_eq_true_eq]
  grind

open Decode

def encode (f : IncidentFilter) : Json :=
  .object [("status", .ofOption Status.encode f.status),
    ("release_name", .ofOption .str f.releaseName),
    ("release_namespace", .ofOption .str f.releaseNamespace)]

def fields : Fields IncidentFilter :=
  ((Fields.none IncidentFilter.mk).nullable "status" Status.decode
    |>.nullable "release_name" string
    |>.nullable "release_namespace" string)

def decode : Decoder IncidentFilter := fields.record "IncidentFilter"

end IncidentFilter

end IncidentWatch

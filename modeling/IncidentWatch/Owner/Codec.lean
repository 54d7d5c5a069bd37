import IncidentWatch.Owner.Basic
import IncidentWatch.Json.Decode

/-!
# Owners in JSON

The kinds are written by their names, a kind without a name of its own as the
member `Other`. The hint of an event spells its fields in camel case, an owner
its own in snake case.
-/

set_option autoImplicit false

namespace IncidentWatch

open Decode

namespace ObjectKind

/-- The kinds by their names. -/
def named : List (String × ObjectKind) :=
  [("Deployment", .deployment), ("Job", .job), ("Pod", .pod)]

def encode (k : ObjectKind) : Json := .str k.name

def decode : Decoder ObjectKind := constant named

end ObjectKind

namespace OwnerKind

def encode : OwnerKind → Json
  | .other name => .object [("Other", .str name)]
  | k => .str k.name

/-- The name of the variant for all other kinds is known as well, but it has to hold a text. -/
def decode : Decoder OwnerKind := fun j => do
  let (variant, held) ← variantParts j
  if variant = "Other" then
    match held with
    | none => .error (.wrongType "unit variant" "newtype variant")
    | some (value, alone) => return .other (← soleMember string value alone)
  else
    match named.lookup variant with
    | none => .error (.unknownVariant variant (named.map (·.1) ++ ["Other"]))
    | some k =>
      match held with
      | none => return k
      | some (value, alone) =>
        soleMember unit value alone
        return k

end OwnerKind

namespace InvolvedObject

def encode (o : InvolvedObject) : Json :=
  .object [("kind", o.kind.encode), ("name", .str o.name), ("namespace", .str o.namespaceName)]

def fields : Fields InvolvedObject :=
  ((Fields.none InvolvedObject.mk).required "kind" ObjectKind.decode
    |>.required "name" string
    |>.required "namespace" string)

def decode : Decoder InvolvedObject := fields.record "InvolvedObject"

end InvolvedObject

namespace OwnerHint

def encode (h : OwnerHint) : Json :=
  .object [("kind", .str h.kind), ("name", .str h.name), ("namespace", .str h.namespaceName),
    ("helmRevision", .int h.helmRevision.toInt)]

def fields : Fields OwnerHint :=
  ((Fields.none OwnerHint.mk).required "kind" string
    |>.required "name" string
    |>.required "namespace" string
    |>.defaulted "helmRevision" int64 0)

def decode : Decoder OwnerHint := fields.record "OwnerHint"

end OwnerHint

namespace OwnerRef

def encode (o : OwnerRef) : Json :=
  .object [("kind", o.kind.encode), ("name", .str o.name), ("namespace", .str o.namespaceName),
    ("chart_name", .str o.chartName), ("release_name", .str o.releaseName),
    ("helm_revision", .int o.helmRevision.toInt)]

def fields : Fields OwnerRef :=
  ((Fields.none OwnerRef.mk).required "kind" OwnerKind.decode
    |>.required "name" string
    |>.required "namespace" string
    |>.required "chart_name" string
    |>.required "release_name" string
    |>.required "helm_revision" int64)

def decode : Decoder OwnerRef := fields.record "OwnerRef"

end OwnerRef

end IncidentWatch

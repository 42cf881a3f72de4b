import DeviceOnboard.Json.Shape

/-!
# Compute resources of a container

Limits, requests and claims as Kubernetes defines them. Quantities are kept as they are written.
-/
namespace DeviceOnboard.Kubernetes

open DeviceOnboard.Json

structure ResourceClaim where
  name : String
  request : Option String
  deriving DecidableEq, Repr

namespace ResourceClaim

def record : Record ResourceClaim :=
  ResourceClaim.mk <$> .orEmpty "name" .string "" <*> .optional "request" .string

def decode : Decoder ResourceClaim := record.decodeKubernetes "ResourceClaim"

def toJson (c : ResourceClaim) : Json :=
  .record [.one "name" (.str c.name), .opt "request" c.request .str]

end ResourceClaim

structure ResourceRequirements where
  claims : Option (List ResourceClaim)
  limits : Option (Dictionary String)
  requests : Option (Dictionary String)
  deriving DecidableEq, Repr

namespace ResourceRequirements

def record : Record ResourceRequirements :=
  ResourceRequirements.mk <$> .optional "claims" (.list ResourceClaim.decode)
    <*> .optional "limits" (.dictionary .string) <*> .optional "requests" (.dictionary .string)

def decode : Decoder ResourceRequirements := record.decodeKubernetes "ResourceRequirements"

def toJson (r : ResourceRequirements) : Json :=
  .record
    [.opt "claims" r.claims fun l => .arr (l.map ResourceClaim.toJson),
      .opt "limits" r.limits .dict, .opt "requests" r.requests .dict]

end ResourceRequirements

end DeviceOnboard.Kubernetes

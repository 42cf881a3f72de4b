import DeviceOnboard.Kubernetes.Resource
import DeviceOnboard.Kubernetes.Shapes

/-!
# Volume claims

A claim asks for storage of a size and a class.
-/
namespace DeviceOnboard.Kubernetes

open DeviceOnboard.Json

structure VolumeClaimSpec where
  accessModes : Option (List String) := none
  storageClassName : Option String := none
  others : Members := []
  deriving Repr

namespace VolumeClaimSpec

def record : Record VolumeClaimSpec :=
  VolumeClaimSpec.mk <$> .optional "accessModes" (.list .string)
    <*> .optional "storageClassName" .string <*> .carried Shapes.claimSpecRest

def decode : Decoder VolumeClaimSpec := record.decodeKubernetes "PersistentVolumeClaimSpec"

def toJson (s : VolumeClaimSpec) : Json :=
  .obj <| sortEntries <| s.others ++ Members.join
    [.opt "accessModes" s.accessModes .strings,
      .opt "storageClassName" s.storageClassName .str]

end VolumeClaimSpec

structure VolumeClaim where
  metadata : ObjectMeta
  spec : Option VolumeClaimSpec := none
  others : Members := []
  deriving Repr

namespace VolumeClaim

def record : Record VolumeClaim :=
  (fun _ _ metadata spec others => ⟨metadata, spec, others⟩)
    <$> .constant "apiVersion" Resource.claims.apiVersion <*> .constant "kind" Resource.claims.kind
    <*> .orEmpty "metadata" ObjectMeta.decode {} <*> .optional "spec" VolumeClaimSpec.decode
    <*> .carried [Shape.opt "status" Shapes.claimStatus]

def decode : Decoder VolumeClaim := record.decodeKubernetes "PersistentVolumeClaim"

def manifest (c : VolumeClaim) : Manifest where
  resource := .claims
  metadata := c.metadata
  content := Members.opt "spec" c.spec VolumeClaimSpec.toJson ++ c.others

def toJson (c : VolumeClaim) : Json := c.manifest.toJson

end VolumeClaim

end DeviceOnboard.Kubernetes

import DeviceOnboard.Kubernetes.Resource

/-!
# Configuration maps

A configuration map holds texts, and bytes in base64, under keys.
-/
namespace DeviceOnboard.Kubernetes

open DeviceOnboard.Json

structure ConfigMap where
  metadata : ObjectMeta
  data : Option (Dictionary String) := none
  binaryData : Option (Dictionary String) := none
  immutable : Option Bool := none
  deriving Repr

namespace ConfigMap

def record : Record ConfigMap :=
  (fun _ _ metadata data binaryData immutable => ⟨metadata, data, binaryData, immutable⟩)
    <$> .constant "apiVersion" Resource.configMaps.apiVersion
    <*> .constant "kind" Resource.configMaps.kind <*> .orEmpty "metadata" ObjectMeta.decode {}
    <*> .optional "data" (.dictionary .string)
    <*> .optional "binaryData" (.dictionary Shape.base64Text) <*> .optional "immutable" .boolean

def decode : Decoder ConfigMap := record.decodeKubernetes "ConfigMap"

def manifest (c : ConfigMap) : Manifest where
  resource := .configMaps
  metadata := c.metadata
  content := Members.join
    [.opt "binaryData" c.binaryData .dict, .opt "data" c.data .dict,
      .opt "immutable" c.immutable .bool]

def toJson (c : ConfigMap) : Json := c.manifest.toJson

/-- The keys of the texts, then those of the bytes. -/
def keys (c : ConfigMap) : List String :=
  (c.data.map Dictionary.keys).getD [] ++ (c.binaryData.map Dictionary.keys).getD []

end ConfigMap

end DeviceOnboard.Kubernetes

import DeviceOnboard.Server.Kind
import DeviceOnboard.Server.Manufacturing
import DeviceOnboard.Server.Onboarding
import DeviceOnboard.Server.Rendezvous
import DeviceOnboard.Server.Status

/-!
# Servers as objects of the API

A server is described by an object with metadata, a specification and the observed status.
-/
namespace DeviceOnboard.Server

open DeviceOnboard.Json DeviceOnboard.Kubernetes

/-- The specification of a server of some kind. -/
inductive Spec where
  | manufacturing (s : ManufacturingSpec)
  | onboarding (s : OnboardingSpec)
  | rendezvous (s : RendezvousSpec)
  deriving DecidableEq, Repr

namespace Spec

def kind : Spec → Kind
  | manufacturing _ => .manufacturing
  | onboarding _ => .onboarding
  | rendezvous _ => .rendezvous

/-- Decodes the specification of a server of a kind. -/
def decode : Kind → Decoder Spec
  | .manufacturing => ManufacturingSpec.decode.map manufacturing
  | .onboarding => OnboardingSpec.decode.map onboarding
  | .rendezvous => RendezvousSpec.decode.map rendezvous

def toJson : Spec → Json
  | manufacturing s => s.toJson
  | onboarding s => s.toJson
  | rendezvous s => s.toJson

end Spec

/-- The name of the type of a server's object. -/
def Kind.typeName : Kind → String
  | .manufacturing => "FdoManufacturingServer"
  | .onboarding => "FdoOnboardingServer"
  | .rendezvous => "FdoRendezvousServer"

/-- A server as it is stored in the API. -/
structure ServerObject where
  metadata : ObjectMeta
  spec : Spec
  status : Option Status
  deriving Repr

namespace ServerObject

def record (kind : Kind) : Record ServerObject :=
  ServerObject.mk <$> .required "metadata" ObjectMeta.decode <*> .required "spec" (Spec.decode kind)
    <*> .placed "status" Status.decode

def decode (kind : Kind) : Decoder ServerObject := (record kind).decode kind.typeName

def kind (o : ServerObject) : Kind := o.spec.kind

def manifest (o : ServerObject) : Manifest where
  resource := o.kind.resource
  metadata := o.metadata
  content := Members.join [.one "spec" o.spec.toJson, .opt "status" o.status Status.toJson]

def toJson (o : ServerObject) : Json := o.manifest.toJson

/-- The reference under which events are published about a server. -/
def reference (o : ServerObject) : ObjectReference where
  apiVersion := some o.kind.resource.apiVersion
  kind := some o.kind.resource.kind
  name := o.metadata.name
  «namespace» := o.metadata.namespace
  uid := o.metadata.uid
  resourceVersion := o.metadata.resourceVersion

end ServerObject

/-- The server that an object is made for. -/
structure Owner where
  name : String
  «namespace» : String
  kind : Kind
  reference : Option OwnerReference
  deriving DecidableEq, Repr

namespace Owner

/-- The reference by which objects name the server that controls them; the server has to have a
name and a unique identifier. -/
def referenceOf (kind : Kind) (m : ObjectMeta) : Option OwnerReference := do
  let name ← m.name
  let uid ← m.uid
  return ⟨kind.resource.apiVersion, kind.resource.kind, name, uid, some true, none⟩

/-- The labels of the objects made for a server. -/
def labels (o : Owner) : Dictionary String := o.kind.labels o.name

/-- The metadata of an object made for a server. -/
def metadata (o : Owner) (name : String) : ObjectMeta where
  name := some name
  «namespace» := some o.namespace
  labels := some o.labels
  ownerReferences := o.reference.map fun r => [r]

end Owner

end DeviceOnboard.Server

import DeviceOnboard.Kubernetes.Resource
import DeviceOnboard.Kubernetes.Shapes

/-!
# Services

A service passes what arrives at its ports on to the pods that it selects by their labels.
-/
namespace DeviceOnboard.Kubernetes

open DeviceOnboard.Json

structure ServicePort where
  port : Int32
  targetPort : Option IntOrString := none
  protocol : Option String := none
  others : Members := []
  deriving Repr

namespace ServicePort

def record : Record ServicePort :=
  ServicePort.mk <$> .orEmpty "port" (Decoder.int32.map Int32.ofInt) 0
    <*> .optional "targetPort" IntOrString.decode <*> .optional "protocol" .string
    <*> .carried Shapes.servicePortRest

def decode : Decoder ServicePort := record.decodeKubernetes "ServicePort"

def toJson (p : ServicePort) : Json :=
  .obj <| sortEntries <| p.others ++ Members.join
    [.one "port" (.int p.port.toInt), .opt "protocol" p.protocol .str,
      .opt "targetPort" p.targetPort IntOrString.toJson]

end ServicePort

structure ServiceSpec where
  selector : Option (Dictionary String) := none
  ports : Option (List ServicePort) := none
  others : Members := []
  deriving Repr

namespace ServiceSpec

def record : Record ServiceSpec :=
  ServiceSpec.mk <$> .optional "selector" (.dictionary .string)
    <*> .optional "ports" (.list ServicePort.decode) <*> .carried Shapes.serviceSpecRest

def decode : Decoder ServiceSpec := record.decodeKubernetes "ServiceSpec"

def toJson (s : ServiceSpec) : Json :=
  .obj <| sortEntries <| s.others ++ Members.join
    [.opt "ports" s.ports fun l => .arr (l.map ServicePort.toJson),
      .opt "selector" s.selector .dict]

end ServiceSpec

structure Service where
  metadata : ObjectMeta
  spec : Option ServiceSpec := none
  others : Members := []
  deriving Repr

namespace Service

def record : Record Service :=
  (fun _ _ metadata spec others => ⟨metadata, spec, others⟩)
    <$> .constant "apiVersion" Resource.services.apiVersion
    <*> .constant "kind" Resource.services.kind <*> .orEmpty "metadata" ObjectMeta.decode {}
    <*> .optional "spec" ServiceSpec.decode <*> .carried [Shape.opt "status" Shapes.serviceStatus]

def decode : Decoder Service := record.decodeKubernetes "Service"

def manifest (s : Service) : Manifest where
  resource := .services
  metadata := s.metadata
  content := Members.opt "spec" s.spec ServiceSpec.toJson ++ s.others

def toJson (s : Service) : Json := s.manifest.toJson

end Service

end DeviceOnboard.Kubernetes

import DeviceOnboard.Kubernetes.Resource

/-!
# Pods

The part of a pod's specification that servers are described with: containers, and volumes with
the places where they are mounted. All other fields are carried along in normal form.
-/
namespace DeviceOnboard.Kubernetes

open DeviceOnboard.Json

/-- A place in a container where a volume is mounted. -/
structure VolumeMount where
  name : String
  mountPath : String
  subPath : Option String := none
  readOnly : Option Bool := none
  others : Members := []
  deriving Repr

namespace VolumeMount

def record : Record VolumeMount :=
  VolumeMount.mk <$> .orEmpty "name" .string "" <*> .orEmpty "mountPath" .string ""
    <*> .optional "subPath" .string <*> .optional "readOnly" .boolean
    <*> .carried (Shape.opts .text ["mountPropagation", "recursiveReadOnly", "subPathExpr"])

def decode : Decoder VolumeMount := record.decodeKubernetes "VolumeMount"

def toJson (m : VolumeMount) : Json :=
  .obj <| sortEntries <| m.others ++ Members.join
    [.one "mountPath" (.str m.mountPath), .one "name" (.str m.name),
      .opt "readOnly" m.readOnly .bool, .opt "subPath" m.subPath .str]

end VolumeMount

/-- What a volume holds. -/
inductive VolumeSource where
  | configMap (name : String)
  /-- The values of some keys of a secret, each in a file named like its key. -/
  | secret (name : String) (keys : List String)
  | claim (name : String)
  /-- A source that this library does not make, in normal form. -/
  | foreign (members : Members)
  deriving Repr

namespace VolumeSource

def members : VolumeSource → Members
  | configMap name => [("configMap", .obj [("name", .str name)])]
  | secret name keys =>
    [("secret", .obj
      [("items", .arr (keys.map fun k => .obj [("key", .str k), ("path", .str k)])),
        ("optional", .bool false), ("secretName", .str name)])]
  | claim name => [("persistentVolumeClaim", .obj [("claimName", .str name)])]
  | foreign members => members

end VolumeSource

structure Volume where
  name : String
  source : VolumeSource
  deriving Repr

namespace Volume

def record : Record Volume :=
  (fun name members => ⟨name, .foreign members⟩) <$> .orEmpty "name" .string ""
    <*> .carried (Shapes.providerVolumes ++ Shapes.networkVolumes ++ Shapes.clusterVolumes)

def decode : Decoder Volume := record.decodeKubernetes "Volume"

def toJson (v : Volume) : Json :=
  .obj (sortEntries (v.source.members ++ [("name", .str v.name)]))

end Volume

structure Container where
  name : String
  image : Option String := none
  volumeMounts : Option (List VolumeMount) := none
  others : Members := []
  deriving Repr

namespace Container

def record : Record Container :=
  Container.mk <$> .orEmpty "name" .string "" <*> .optional "image" .string
    <*> .optional "volumeMounts" (.list VolumeMount.decode)
    <*> .carried (Shape.without ["image", "volumeMounts"] Shapes.containerRest)

def decode : Decoder Container := record.decodeKubernetes "Container"

def toJson (c : Container) : Json :=
  .obj <| sortEntries <| c.others ++ Members.join
    [.opt "image" c.image .str, .one "name" (.str c.name),
      .opt "volumeMounts" c.volumeMounts fun l => .arr (l.map VolumeMount.toJson)]

end Container

structure PodSpec where
  containers : List Container
  volumes : Option (List Volume) := none
  others : Members := []
  deriving Repr

namespace PodSpec

def record : Record PodSpec :=
  PodSpec.mk <$> .orEmpty "containers" (.list Container.decode) []
    <*> .optional "volumes" (.list Volume.decode)
    <*> .carried (Shape.without ["volumes"] Shapes.podSpecRest)

def decode : Decoder PodSpec := record.decodeKubernetes "PodSpec"

def toJson (p : PodSpec) : Json :=
  .obj <| sortEntries <| p.others ++ Members.join
    [.one "containers" (.arr (p.containers.map Container.toJson)),
      .opt "volumes" p.volumes fun l => .arr (l.map Volume.toJson)]

end PodSpec

/-- The pods that are made from a template. -/
structure PodTemplate where
  metadata : Option ObjectMeta := none
  spec : Option PodSpec := none
  deriving Repr

namespace PodTemplate

def record : Record PodTemplate :=
  PodTemplate.mk <$> .optional "metadata" ObjectMeta.decode <*> .optional "spec" PodSpec.decode

def decode : Decoder PodTemplate := record.decodeKubernetes "PodTemplateSpec"

def toJson (t : PodTemplate) : Json :=
  .record [.opt "metadata" t.metadata ObjectMeta.toJson, .opt "spec" t.spec PodSpec.toJson]

end PodTemplate

end DeviceOnboard.Kubernetes

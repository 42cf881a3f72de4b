import DeviceOnboard.Kubernetes.PodShapes

/-!
# Object metadata

The metadata that every Kubernetes object carries, and the references from one object to another.
Fields that this library neither sets nor reads are carried along in normal form.
-/
namespace DeviceOnboard.Kubernetes

open DeviceOnboard.Json

/-- The object that owns another one. -/
structure OwnerReference where
  apiVersion : String
  kind : String
  name : String
  uid : String
  controller : Option Bool
  blockOwnerDeletion : Option Bool
  deriving DecidableEq, Repr

namespace OwnerReference

def record : Record OwnerReference :=
  OwnerReference.mk <$> .orEmpty "apiVersion" .string "" <*> .orEmpty "kind" .string ""
    <*> .orEmpty "name" .string "" <*> .orEmpty "uid" .string ""
    <*> .optional "controller" .boolean <*> .optional "blockOwnerDeletion" .boolean

def decode : Decoder OwnerReference := record.decodeKubernetes "OwnerReference"

def toJson (r : OwnerReference) : Json :=
  .record
    [.one "apiVersion" (.str r.apiVersion), .opt "blockOwnerDeletion" r.blockOwnerDeletion .bool,
      .opt "controller" r.controller .bool, .one "kind" (.str r.kind), .one "name" (.str r.name),
      .one "uid" (.str r.uid)]

end OwnerReference

/-- The metadata of an object. -/
structure ObjectMeta where
  name : Option String := none
  generateName : Option String := none
  «namespace» : Option String := none
  uid : Option String := none
  resourceVersion : Option String := none
  generation : Option Int64 := none
  labels : Option (Dictionary String) := none
  annotations : Option (Dictionary String) := none
  ownerReferences : Option (List OwnerReference) := none
  others : List (String × Json) := []
  deriving Repr, Inhabited

namespace ObjectMeta

def record : Record ObjectMeta :=
  ObjectMeta.mk <$> .optional "name" .string <*> .optional "generateName" .string
    <*> .optional "namespace" .string <*> .optional "uid" .string
    <*> .optional "resourceVersion" .string
    <*> .optional "generation" (Decoder.int64.map Int64.ofInt)
    <*> .optional "labels" (.dictionary .string) <*> .optional "annotations" (.dictionary .string)
    <*> .optional "ownerReferences" (.list OwnerReference.decode)
    <*> .carried Shapes.metadataRest

def decode : Decoder ObjectMeta := record.decodeKubernetes "ObjectMeta"

def toJson (m : ObjectMeta) : Json :=
  .obj <| sortEntries <| m.others ++ Members.join
    [.opt "annotations" m.annotations .dict, .opt "generateName" m.generateName .str,
      .opt "generation" m.generation fun n => .int n.toInt, .opt "labels" m.labels .dict,
      .opt "name" m.name .str, .opt "namespace" m.namespace .str,
      .opt "ownerReferences" m.ownerReferences fun l => .arr (l.map OwnerReference.toJson),
      .opt "resourceVersion" m.resourceVersion .str, .opt "uid" m.uid .str]

/-- The name of an object, else the stem of a name that is still to be generated, else nothing. -/
def nameOrStem (m : ObjectMeta) : String := (m.name.or m.generateName).getD ""

/-- The value of a label. -/
def label? (m : ObjectMeta) (key : String) : Option String := m.labels.bind (·.find? key)

end ObjectMeta

/-- A reference to an object, as events carry it. -/
structure ObjectReference where
  apiVersion : Option String := none
  kind : Option String := none
  name : Option String := none
  «namespace» : Option String := none
  uid : Option String := none
  resourceVersion : Option String := none
  fieldPath : Option String := none
  deriving DecidableEq, Repr, Inhabited

namespace ObjectReference

def record : Record ObjectReference :=
  ObjectReference.mk <$> .optional "apiVersion" .string <*> .optional "kind" .string
    <*> .optional "name" .string <*> .optional "namespace" .string <*> .optional "uid" .string
    <*> .optional "resourceVersion" .string <*> .optional "fieldPath" .string

def decode : Decoder ObjectReference := record.decodeKubernetes "ObjectReference"

def toJson (r : ObjectReference) : Json :=
  .record
    [.opt "apiVersion" r.apiVersion .str, .opt "fieldPath" r.fieldPath .str,
      .opt "kind" r.kind .str, .opt "name" r.name .str, .opt "namespace" r.namespace .str,
      .opt "resourceVersion" r.resourceVersion .str, .opt "uid" r.uid .str]

end ObjectReference

end DeviceOnboard.Kubernetes

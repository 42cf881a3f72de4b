import DeviceOnboard.Kubernetes.Metadata

/-!
# Kinds of objects and where they are found

A resource names a kind of object of the Kubernetes API, and gives the paths of its objects.
-/
namespace DeviceOnboard.Kubernetes

open DeviceOnboard.Json

/-- A kind of namespaced object. The group of the core kinds is empty. -/
structure Resource where
  group : String
  version : String
  kind : String
  plural : String
  deriving DecidableEq, Repr

/-- The name of one object of a kind: the kind in lower case. Kinds consist of ASCII letters. -/
def singularOf (kind : String) : String := String.ofList (kind.toList.map Char.toLower)

namespace Resource

def apiVersion (r : Resource) : String :=
  if r.group = "" then r.version else r.group ++ "/" ++ r.version

/-- The path below which the objects of the group are found. -/
def root (r : Resource) : String :=
  if r.group = "" then "/api/" ++ r.version else "/apis/" ++ r.group ++ "/" ++ r.version

/-- The path of the objects in a namespace, or of those in all namespaces. -/
def path (r : Resource) : Option String → String
  | some ns => r.root ++ "/namespaces/" ++ ns ++ "/" ++ r.plural
  | none => r.root ++ "/" ++ r.plural

def configMaps : Resource := ⟨"", "v1", "ConfigMap", "configmaps"⟩

def services : Resource := ⟨"", "v1", "Service", "services"⟩

def claims : Resource := ⟨"", "v1", "PersistentVolumeClaim", "persistentvolumeclaims"⟩

def pods : Resource := ⟨"", "v1", "Pod", "pods"⟩

def deployments : Resource := ⟨"apps", "v1", "Deployment", "deployments"⟩

def routes : Resource := ⟨"route.openshift.io", "v1", "Route", "routes"⟩

def events : Resource := ⟨"events.k8s.io", "v1", "Event", "events"⟩

end Resource

/-- An object of the API: its resource, its metadata and its other members in normal form. -/
structure Manifest where
  resource : Resource
  metadata : ObjectMeta
  content : List (String × Json)
  deriving Repr

namespace Manifest

def toJson (m : Manifest) : Json :=
  .obj <| sortEntries <| m.content ++
    [("apiVersion", .str m.resource.apiVersion), ("kind", .str m.resource.kind),
      ("metadata", m.metadata.toJson)]

/-- An object whose members besides its metadata are the given fields. -/
def record (r : Resource) (fields : List (String × Bool × Shape)) : Record Manifest :=
  (fun _ _ metadata content => ⟨r, metadata, content⟩) <$> .constant "apiVersion" r.apiVersion
    <*> .constant "kind" r.kind <*> .orEmpty "metadata" ObjectMeta.decode {} <*> .carried fields

def decode (r : Resource) (fields : List (String × Bool × Shape)) : Decoder Manifest :=
  (record r fields).decodeKubernetes r.kind

end Manifest

end DeviceOnboard.Kubernetes

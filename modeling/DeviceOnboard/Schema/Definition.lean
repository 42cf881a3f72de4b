import DeviceOnboard.Json.Printer
import DeviceOnboard.Schema.Servers
import DeviceOnboard.Yaml.Document

/-!
# Definitions of custom resources

The manifests that make the resources of servers known to the API, as objects and as a stream of
YAML documents.
-/
namespace DeviceOnboard.Schema

open DeviceOnboard.Json DeviceOnboard.Kubernetes DeviceOnboard.Server

/-- The short name of a resource in commands. -/
def shortName : Kind → String
  | .manufacturing => "fdomfg"
  | .onboarding => "fdoonb"
  | .rendezvous => "fdorv"

def namesJson (kind : Kind) : Json :=
  .record
    [.one "categories" (.arr []), .one "kind" (.str kind.resource.kind),
      .one "plural" (.str kind.resource.plural), .one "shortNames" (.strings [shortName kind]),
      .one "singular" (.str (singularOf kind.resource.kind))]

def versionJson (kind : Kind) : Json :=
  .record
    [.one "additionalPrinterColumns" (.arr []), .one "name" (.str kind.resource.version),
      .one "schema" (.record [.one "openAPIV3Schema" (server kind).toJson]),
      .one "served" (.bool true), .one "storage" (.bool true),
      .one "subresources" (.record [.one "status" (.obj [])])]

/-- The manifest that defines the resource of a kind of servers. -/
def definition (kind : Kind) : Json :=
  .record
    [.one "apiVersion" (.str "apiextensions.k8s.io/v1"),
      .one "kind" (.str "CustomResourceDefinition"),
      .one "metadata"
        (.record [.one "name" (.str (kind.resource.plural ++ "." ++ kind.resource.group))]),
      .one "spec" (.record
        [.one "group" (.str kind.resource.group), .one "names" (namesJson kind),
          .one "scope" (.str "Namespaced"), .one "versions" (.arr [versionJson kind])])]

mutual

/-- A value as a YAML document. -/
def yamlOf : Json → Yaml
  | .null => .word "null"
  | .bool b => .bool b
  | .int n => .int n
  | .float x => .word (floatLayout.render x)
  | .str s => .str s
  | .arr items => .seq (yamlItems items)
  | .obj ms => .map (yamlMembers ms)

def yamlItems : List Json → List Yaml
  | [] => []
  | j :: js => yamlOf j :: yamlItems js

def yamlMembers : List (String × Json) → List (String × Yaml)
  | [] => []
  | (k, j) :: ms => (k, yamlOf j) :: yamlMembers ms

end

/-- The definitions of all kinds, each as a document of its own. -/
def definitionsText : String :=
  String.join (Kind.all.map fun kind => "---\n" ++ (yamlOf (definition kind)).text)

end DeviceOnboard.Schema

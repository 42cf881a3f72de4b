import DeviceOnboard.Api.Client

/-!
# What the API offers

Routes are only made in clusters whose API knows them. Whether it does is asked for before the
controllers start; any failure counts as a no.
-/
namespace DeviceOnboard.Api

open DeviceOnboard.Json DeviceOnboard.Kubernetes

/-- The fields of a resource as the API lists it. -/
def resourceFields : List (String × Bool × Shape) :=
  [Shape.req "kind" .text, Shape.req "name" .text, Shape.req "namespaced" .boolean,
      Shape.req "singularName" .text, Shape.req "verbs" (.list .text)]
    ++ Shape.opts (.list .text) ["categories", "shortNames"]
    ++ Shape.opts .text ["group", "storageVersionHash", "version"]

/-- The kinds of the resources in a list of resources. -/
def decodeKinds : Decoder (List String) :=
  let record : Record (List Json) :=
    (fun _ _ _ resources => resources) <$> .constant "apiVersion" "v1"
      <*> .constant "kind" "APIResourceList" <*> .orEmpty "groupVersion" .string ""
      <*> .orEmpty "resources" (.list (Shape.decode (.object "APIResource" resourceFields))) []
  (record.decodeKubernetes "APIResourceList").map fun resources =>
    resources.filterMap fun r => (r.get? "kind").bind Json.str?

/-- Whether the API knows a kind of resource. -/
def knows (r : Resource) : Exchange Bool :=
  (send { method := .get, path := r.root } decodeKinds).bind fun
    | .ok kinds => .done (kinds.contains r.kind)
    | .error _ => .done false

end DeviceOnboard.Api

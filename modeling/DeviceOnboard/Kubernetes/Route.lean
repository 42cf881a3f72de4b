import DeviceOnboard.Kubernetes.Resource

/-!
# Routes

A route exposes a service under a host name. The host may be left to the router, which then
reports it in the status of the route.
-/
namespace DeviceOnboard.Kubernetes

open DeviceOnboard.Json

structure RouteTarget where
  kind : String
  name : String
  deriving DecidableEq, Repr

namespace RouteTarget

def record : Record RouteTarget :=
  RouteTarget.mk <$> .required "kind" .string <*> .required "name" .string

def decode : Decoder RouteTarget := record.decode "RouteTargetReference"

def toJson (t : RouteTarget) : Json :=
  .record [.one "kind" (.str t.kind), .one "name" (.str t.name)]

end RouteTarget

structure RoutePort where
  targetPort : IntOrString
  deriving DecidableEq, Repr

namespace RoutePort

def record : Record RoutePort := RoutePort.mk <$> .required "targetPort" IntOrString.decode

def decode : Decoder RoutePort := record.decode "RoutePort"

def toJson (p : RoutePort) : Json := .record [.one "targetPort" p.targetPort.toJson]

end RoutePort

structure RouteSpec where
  host : Option String
  target : RouteTarget
  port : Option RoutePort
  wildcardPolicy : Option String
  deriving DecidableEq, Repr

namespace RouteSpec

def record : Record RouteSpec :=
  RouteSpec.mk <$> .optional "host" .string <*> .required "to" RouteTarget.decode
    <*> .optional "port" RoutePort.decode <*> .optional "wildcardPolicy" .string

def decode : Decoder RouteSpec := record.decode "RouteSpec"

def toJson (s : RouteSpec) : Json :=
  .record
    [.opt "host" s.host .str, .opt "port" s.port RoutePort.toJson, .one "to" s.target.toJson,
      .opt "wildcardPolicy" s.wildcardPolicy .str]

end RouteSpec

/-- A host under which a router admitted a route. -/
structure RouteIngress where
  host : Option String
  routerName : Option String
  deriving DecidableEq, Repr

namespace RouteIngress

def record : Record RouteIngress :=
  RouteIngress.mk <$> .optional "host" .string <*> .optional "routerName" .string

def decode : Decoder RouteIngress := record.decode "RouteIngress"

def toJson (i : RouteIngress) : Json :=
  .record [.opt "host" i.host .str, .opt "routerName" i.routerName .str]

end RouteIngress

structure RouteStatus where
  ingress : List RouteIngress
  deriving DecidableEq, Repr

namespace RouteStatus

def record : Record RouteStatus :=
  RouteStatus.mk <$> .defaulted "ingress" (.list RouteIngress.decode) []

def decode : Decoder RouteStatus := record.decode "RouteStatus"

def toJson (s : RouteStatus) : Json := .record [.many "ingress" s.ingress RouteIngress.toJson]

end RouteStatus

structure Route where
  metadata : ObjectMeta
  spec : RouteSpec
  status : Option RouteStatus
  deriving Repr

namespace Route

def record : Record Route :=
  Route.mk <$> .required "metadata" ObjectMeta.decode <*> .required "spec" RouteSpec.decode
    <*> .placed "status" RouteStatus.decode

def decode : Decoder Route := record.decode "Route"

def manifest (r : Route) : Manifest where
  resource := .routes
  metadata := r.metadata
  content := Members.join [.one "spec" r.spec.toJson, .opt "status" r.status RouteStatus.toJson]

def toJson (r : Route) : Json := r.manifest.toJson

/-- The hosts that routers report, in order. -/
def ingressHosts (r : Route) : List (Option String) :=
  ((r.status.map RouteStatus.ingress).getD []).map RouteIngress.host

/-- The host the route is reached under. A host that is set in the specification comes before
those of the routers, and a host that is found but empty is none. -/
def host? (r : Route) : Option String :=
  (r.spec.host.or (r.ingressHosts.findSome? id)).filter (· ≠ "")

end Route

end DeviceOnboard.Kubernetes

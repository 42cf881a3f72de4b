import DeviceOnboard.Kubernetes.Selector
import DeviceOnboard.Simulation.Transport

/-!
# An API server in memory

A server of the Kubernetes API with a fixed store, for trying out controllers. Lists are answered
from the store. An object that is sent comes back as it was sent, routes with the hosts that a
router gave them, and a status comes back in the object that it belongs to. Single objects are
never found. A failure is the answer to one request, and is spent with it.
-/
namespace DeviceOnboard.Simulation

open DeviceOnboard.Api DeviceOnboard.Json DeviceOnboard.Kubernetes

/-- An object of the store. -/
structure StoredObject where
  plural : String
  metadata : ObjectMeta
  json : Json

namespace StoredObject

/-- An object from its text, which names its kind. -/
def ofJson (j : Json) : StoredObject where
  plural := singularOf (((j.get? "kind").bind Json.str?).getD "") ++ "s"
  metadata := (Json.decode ObjectMeta.decode ((j.get? "metadata").getD (.obj []))).toOption.getD {}
  json := j

/-- Whether an object belongs to a list: one of a resource, in a namespace or in all, of objects
with labels that a selector matches. -/
def belongs (o : StoredObject) (plural : String) («namespace» : Option String)
    (s : Selector) : Bool :=
  o.plural == plural && («namespace».all fun ns => o.metadata.namespace == some ns)
    && s.selects o.metadata.label?

end StoredObject

/-- What a request is about. -/
inductive Target where
  | list («namespace» : Option String) (plural : String)
  | object («namespace» plural name : String)
  /-- The status of an object. -/
  | status («namespace» plural name : String)
  | other
  deriving DecidableEq, Repr

namespace Target

/-- The target of the part of a path below the group. -/
def ofParts : List String → Target
  | ["namespaces", ns, plural] => list (some ns) plural
  | ["namespaces", ns, plural, name] => object ns plural name
  | ["namespaces", ns, plural, name, "status"] => status ns plural name
  | [plural] => list none plural
  | _ => other

def ofPath (path : String) : Target :=
  match Text.splitText '/' path with
  | "" :: "api" :: _ :: parts => ofParts parts
  | "" :: "apis" :: _ :: _ :: parts => ofParts parts
  | _ => other

def plural : Target → Option String
  | list _ plural | object _ plural _ | status _ plural _ => some plural
  | other => none

end Target

/-- A response that one request gets in place of its own. -/
structure Failure where
  /-- The method and the path of the request. -/
  request : String
  response : Response
  deriving DecidableEq, Repr

structure ApiServer where
  objects : List StoredObject
  /-- The hosts that a router gives to every route. -/
  ingress : Option Json
  failures : List Failure
  /-- The time on the clock. -/
  second : Nat := 0
  /-- The requests that were sent, with their times. -/
  log : List (Nat × Request) := []

namespace ApiServer

def select (s : ApiServer) (plural : String) («namespace» : Option String) (selector : Selector) :
    List Json :=
  (s.objects.filter fun o => o.belongs plural «namespace» selector).map (·.json)

/-- The selector that a request asks for. -/
def selectorOf (q : Request) : Selector := .ofText ((q.query.lookup "labelSelector").getD "")

def listJson (items : List Json) : Json :=
  .record [.one "items" (.arr items), .one "metadata" (.obj [])]

/-- A sent object as it comes back. -/
def echoed (s : ApiServer) (target : Target) (j : Json) : Json :=
  match s.ingress with
  | some ingress =>
    if target.plural = some Resource.routes.plural then
      j.merge (.record [.one "status" (.record [.one "ingress" ingress])])
    else j
  | none => j

/-- The object that a status belongs to, with the patch applied. -/
def patched? (s : ApiServer) (ns plural name : String) (patch : Json) : Option Json :=
  (s.objects.find? fun o => o.belongs plural (some ns) .all && o.metadata.name == some name).map
    fun o => o.json.merge patch

def ok (j : Json) : Response := ⟨200, j.text⟩

def notFound : Response := ⟨404, Transport.notFoundBody⟩

/-- The response to a request that does not fail. -/
def reply (s : ApiServer) (q : Request) : Response :=
  match q.payload, Target.ofPath q.path with
  | none, .list ns plural => ok (listJson (s.select plural ns (selectorOf q)))
  | none, _ => notFound
  | some p, .status ns plural name =>
    match s.patched? ns plural name p.json with
    | some j => ok j
    | none => notFound
  | some p, target => ok (s.echoed target p.json)

/-- The failure that a request runs into. -/
def failure? (s : ApiServer) (q : Request) : Option Failure :=
  s.failures.find? fun f => f.request == q.method.name ++ " " ++ q.path

def answer (q : Request) (s : ApiServer) : Response × ApiServer :=
  let s' := { s with log := s.log ++ [(s.second, q)] }
  match s.failure? q with
  | some f => (f.response, { s' with failures := s.failures.erase f })
  | none => (s.reply q, s')

end ApiServer

end DeviceOnboard.Simulation

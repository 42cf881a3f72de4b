import DeviceOnboard.Controller.Basic
import DeviceOnboard.Simulation.ApiServer

/-!
# A controller in the course of time

A controller against an API server in memory, second by second: changes come in, then the servers
that are due are reconciled. Changes of one second that ask for the same server lead to one
reconcile.
-/
namespace DeviceOnboard.Simulation

open DeviceOnboard.Controller DeviceOnboard.Kubernetes DeviceOnboard.Server

inductive EventType where
  | added | modified | deleted
  deriving DecidableEq, Repr

/-- A change of an object that the API reports. -/
structure Event where
  second : Nat
  type : EventType
  object : StoredObject

/-- What happens to a controller. -/
structure Scenario where
  kind : Kind
  /-- The only namespace that is watched. -/
  «namespace» : Option String
  routes : Bool
  events : List Event

namespace Scenario

variable (s : Scenario)

/-! ## Watches -/

/-- What an object under a watch tells the controller. -/
def change (w : Watch) (type : EventType) (j : Json) : Except Json.DecodeError Change :=
  match w.role with
  | .server => do
    let o ← Json.decode (ServerObject.decode s.kind) j
    return if type = .deleted then .serverGone o.metadata else .server o
  | .child => return .child (← Json.decode ObjectMeta.decode ((j.get? "metadata").getD .null))
  | .file => return .file (← Json.decode ConfigMap.decode j)

/-- The changes that a watch starts with: the objects that are there. A list with an object that
cannot be read is of no use. -/
def listed (api : ApiServer) (w : Watch) : Except Json.DecodeError (List Change) :=
  (api.select w.resource.plural s.namespace w.selector).mapM (s.change w .added)

/-- The watches whose list could be read. -/
def watches (api : ApiServer) : List Watch :=
  (Watch.all s.kind s.routes).filter fun w => (s.listed api w).isOk

/-- The changes that watches start with. -/
def firstChanges (api : ApiServer) : List Change :=
  (Watch.all s.kind s.routes).flatMap fun w => (s.listed api w).toOption.getD []

/-- The changes of a second. -/
def changesAt (watches : List Watch) (second : Nat) : List Change :=
  (s.events.filter fun e => e.second = second).flatMap fun e =>
    (watches.filter fun w => e.object.belongs w.resource.plural s.namespace w.selector).filterMap
      fun w => (s.change w e.type e.object.json).toOption

end Scenario

/-- The controller and what it works with. -/
structure World where
  controller : Controller
  api : ApiServer
  recorder : Api.Recorder
  metrics : Metrics

namespace World

/-- The controller when it has listed the objects that are there. -/
def start (s : Scenario) (api : ApiServer) : World where
  controller := (s.firstChanges api).foldl (fun c change => c.observe 0 change) (.start s.kind)
  api := api
  recorder := { host := none }
  metrics := .zero

/-- Reconciles a server. -/
def reconcile (routes : Bool) (second : Nat) (w : World) (o : ServerObject) : World :=
  let now : Time := ⟨second, 0⟩
  let calls := Reconcile.reconcile o routes now w.metrics
  let (((outcome, metrics), recorder), api) :=
    (Api.performAll now calls w.recorder).answered ApiServer.answer w.api
  ⟨w.controller.settle (.ofMetadata o.metadata) second outcome, api, recorder, metrics⟩

/-- What happens in a second. -/
def tick (s : Scenario) (watches : List Watch) (w : World) (second : Nat) : World :=
  let c := (s.changesAt watches second).foldl (fun c change => c.observe second change) w.controller
  let w := { w with controller := c.later second, api := { w.api with second := second } }
  (c.due second).foldl (reconcile s.routes second) w

/-- The world at the end of a number of seconds. -/
def run (s : Scenario) (api : ApiServer) (seconds : Nat) : World :=
  (List.range (seconds + 1)).foldl (tick s (s.watches api)) (start s api)

end World

end DeviceOnboard.Simulation

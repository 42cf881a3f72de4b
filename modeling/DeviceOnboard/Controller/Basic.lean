import DeviceOnboard.Controller.Schedule
import DeviceOnboard.Controller.Watch
import DeviceOnboard.Reconcile.Cycle

/-!
# Controllers

A controller keeps the servers of its kind as the watches last reported them, and a schedule of
those to reconcile. A change of a server, of an object made for it or of a file that it delivers
asks for the server at once; the outcome of a reconcile asks for it again after some time. Servers
that are not known are passed over when they are due.
-/
namespace DeviceOnboard

open DeviceOnboard.Kubernetes DeviceOnboard.Server

/-- What the watches of a controller report. -/
inductive Controller.Change where
  /-- A server is there, or has changed. -/
  | server (o : ServerObject)
  /-- A server was deleted. -/
  | serverGone (m : ObjectMeta)
  /-- An object made for a server is there, has changed or was deleted. -/
  | child (m : ObjectMeta)
  /-- A configuration map with a file is there, has changed or was deleted. -/
  | file (m : ConfigMap)

structure Controller where
  kind : Kind
  servers : List (Controller.Key × ServerObject)
  schedule : Controller.Schedule

namespace Controller

def start (kind : Kind) : Controller := ⟨kind, [], .empty⟩

/-! ## Changes -/

/-- Whether a reference names a server of a kind as the controller of an object. -/
def controls (kind : Kind) (r : OwnerReference) : Bool :=
  r.controller == some true && r.apiVersion == kind.resource.apiVersion
    && r.kind == kind.resource.kind

/-- The servers of a kind that an object is made for. -/
def ownersOf (kind : Kind) (m : ObjectMeta) : List Key :=
  ((m.ownerReferences.getD []).filter (controls kind)).map fun r => ⟨m.namespace, r.name⟩

/-- The onboarding server that delivers the file of a configuration map. -/
def fileServer? (m : ConfigMap) : Option Key :=
  (Reconcile.Onboarding.fileOwner? m).map fun (ns, name) => ⟨some ns, name⟩

/-- The servers that a change asks for. -/
def Change.servers (kind : Kind) : Change → List Key
  | server o => [.ofMetadata o.metadata]
  | serverGone _ => []
  | child m => ownersOf kind m
  | file m => (fileServer? m).toList

/-- Servers without the one of a key. -/
def without (key : Key) (servers : List (Key × ServerObject)) : List (Key × ServerObject) :=
  servers.filter fun e => e.1 != key

/-- The servers that are known after a change. -/
def Change.apply (servers : List (Key × ServerObject)) : Change → List (Key × ServerObject)
  | server o => (Key.ofMetadata o.metadata, o) :: without (.ofMetadata o.metadata) servers
  | serverGone m => without (.ofMetadata m) servers
  | child _ | file _ => servers

/-- Takes note of a change. -/
def observe (c : Controller) (second : Nat) (change : Change) : Controller :=
  { c with
    servers := change.apply c.servers
    schedule := (change.servers c.kind).foldl (fun s key => s.request key second) c.schedule }

/-! ## Reconciles -/

/-- The servers to reconcile at a time. -/
def due (c : Controller) (second : Nat) : List ServerObject :=
  (c.schedule.due second).filterMap fun key => c.servers.lookup key

/-- The controller after the servers that are due were taken from the schedule. -/
def later (c : Controller) (second : Nat) : Controller :=
  { c with schedule := c.schedule.later second }

/-- Takes note of the outcome of a reconcile. -/
def settle (c : Controller) (key : Key) (second : Nat)
    (outcome : Except Reconcile.Error Reconcile.Action) : Controller :=
  match Reconcile.requeueAfter outcome with
  | some delay => { c with schedule := c.schedule.request key (second + delay) }
  | none => c

end Controller

end DeviceOnboard

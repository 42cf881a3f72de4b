import DeviceOnboard.Reconcile.Cycle

/-!
# A cluster that follows a script

A cluster whose answers are laid down beforehand, for trying out reconciles. It notes every call
that is made, and the status that was stored last.
-/
namespace DeviceOnboard.Simulation

open DeviceOnboard.Cluster DeviceOnboard.Kubernetes DeviceOnboard.Server

/-- What a cluster answers. -/
structure Script where
  pods : List String
  configMaps : List ConfigMap
  /-- The host that a route gets, in place of the one it asks for. -/
  routeHost : Option String
  /-- The hosts under which routers admit a route. -/
  ingress : Option (List RouteIngress)
  /-- The calls that fail. -/
  failure? : Call → Option ApiError

/-- What a cluster has seen. -/
structure Record where
  calls : List Call := []
  status : Option Status := none

namespace Script

/-- The route as the cluster knows it after it was applied. -/
def admitted (s : Script) (r : Route) : Route :=
  { r with
    spec := { r.spec with host := s.routeHost.or r.spec.host }
    status := (s.ingress.map RouteStatus.mk).or r.status }

/-- What a call yields if it does not fail. -/
def result (s : Script) : (c : Call) → c.Result
  | .applyConfigMap _ m => m
  | .applyDeployment _ d => d
  | .applyService _ v => v
  | .applyRoute _ r => s.admitted r
  | .ensureClaim .. | .patchStatus .. | .publishWarning .. => ()
  | .listConfigMaps .. => s.configMaps
  | .listPodNames .. => s.pods

/-- A result, or the failure that the script has for a call. -/
def outcome (s : Script) (c : Call) : Except Cluster.Error c.Result :=
  match s.failure? c with
  | some e => .error (.api e)
  | none => .ok (s.result c)

/-- The status that is stored after a call. -/
def stored (s : Script) (c : Call) (status : Option Status) : Option Status :=
  match c, s.failure? c with
  | .patchStatus _ _ _ new, none => some new
  | _, _ => status

/-- The answer to a call. -/
def answer (s : Script) (c : Call) (r : Record) : c.Answer × Record :=
  let r := ⟨r.calls ++ [c], s.stored c r.status⟩
  match c with
  | .publishWarning .. => ((), r)
  | .applyConfigMap ns m => (s.outcome (.applyConfigMap ns m), r)
  | .applyDeployment ns d => (s.outcome (.applyDeployment ns d), r)
  | .applyService ns v => (s.outcome (.applyService ns v), r)
  | .applyRoute ns v => (s.outcome (.applyRoute ns v), r)
  | .ensureClaim ns v => (s.outcome (.ensureClaim ns v), r)
  | .listConfigMaps ns v => (s.outcome (.listConfigMaps ns v), r)
  | .listPodNames ns v => (s.outcome (.listPodNames ns v), r)
  | .patchStatus k ns n v => (s.outcome (.patchStatus k ns n v), r)

end Script

/-- What one reconcile against a scripted cluster comes to. -/
structure Trial where
  calls : List Call
  outcome : Except Reconcile.Error Reconcile.Action
  /-- The server with the status that was stored. -/
  server : ServerObject
  metrics : Metrics

/-- Reconciles a server once. -/
def Script.reconcile (s : Script) (server : ServerObject) (routes : Bool) (now : Time)
    (m : Metrics) : Trial :=
  let ((outcome, metrics), seen) :=
    (Reconcile.reconcile server routes now m).answered s.answer {}
  ⟨seen.calls, outcome, { server with status := seen.status.or server.status }, metrics⟩

end DeviceOnboard.Simulation

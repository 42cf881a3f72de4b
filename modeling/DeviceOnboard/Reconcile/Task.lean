import DeviceOnboard.Cluster.Call
import DeviceOnboard.Reconcile.Error

/-!
# Tasks

The steps of a reconcile: calls to the cluster that stop at the first failure.
-/
namespace DeviceOnboard.Reconcile

open DeviceOnboard.Cluster DeviceOnboard.Kubernetes

/-- What follows a reconcile: a change of the server, or the end of some seconds. -/
inductive Action where
  | awaitChange
  | requeue (seconds : Nat)
  deriving DecidableEq, Repr

/-- A program that makes calls and stops at the first failure. -/
abbrev Task := ExceptT Error Cluster.Dialogue

namespace Task

variable {α : Type}

/-- A task that ends with the answer to a call. -/
def attempt (d : Cluster.Dialogue (Except Cluster.Error α)) : Task α :=
  ExceptT.mk (d.bind fun
    | .ok a => .done (.ok a)
    | .error e => .done (.error (.cluster e)))

/-- A part of a configuration, which may be invalid. -/
def checked (r : Except Config.Error α) : Task α :=
  match r with
  | .ok a => pure a
  | .error e => throw (.ofConfig e)

def applyConfigMap («namespace» : String) (m : ConfigMap) : Task ConfigMap :=
  attempt (.question (Call.applyConfigMap «namespace» m))

def applyDeployment («namespace» : String) (d : Deployment) : Task Deployment :=
  attempt (.question (Call.applyDeployment «namespace» d))

def applyService («namespace» : String) (s : Service) : Task Service :=
  attempt (.question (Call.applyService «namespace» s))

def applyRoute («namespace» : String) (r : Route) : Task Route :=
  attempt (.question (Call.applyRoute «namespace» r))

def ensureClaim («namespace» : String) (c : VolumeClaim) : Task Unit :=
  attempt (.question (Call.ensureClaim «namespace» c))

def listConfigMaps («namespace» selector : String) : Task (List ConfigMap) :=
  attempt (.question (Call.listConfigMaps «namespace» selector))

end Task

end DeviceOnboard.Reconcile

import DeviceOnboard.Cluster.Error
import DeviceOnboard.Dialogue
import DeviceOnboard.Server.Children

/-!
# Calls to the cluster

What a reconcile asks of the cluster: to apply objects, to list objects, to store a status and to
publish a warning. Every call names the namespace that it acts in, and each has answers of its own
type.
-/
namespace DeviceOnboard.Cluster

open DeviceOnboard.Kubernetes DeviceOnboard.Server

inductive Call where
  | applyConfigMap («namespace» : String) (m : ConfigMap)
  | applyDeployment («namespace» : String) (d : Deployment)
  | applyService («namespace» : String) (s : Service)
  | applyRoute («namespace» : String) (r : Route)
  /-- Makes a claim unless there is one of its name. -/
  | ensureClaim («namespace» : String) (c : VolumeClaim)
  | listConfigMaps («namespace» selector : String)
  | listPodNames («namespace» selector : String)
  | patchStatus (kind : Kind) («namespace» name : String) (status : Status)
  | publishWarning (reference : ObjectReference) (note : String)

namespace Call

/-- What a call yields when it succeeds. -/
def Result : Call → Type
  | applyConfigMap .. => ConfigMap
  | applyDeployment .. => Deployment
  | applyService .. => Service
  | applyRoute .. => Route
  | ensureClaim .. | patchStatus .. | publishWarning .. => Unit
  | listConfigMaps .. => List ConfigMap
  | listPodNames .. => List String

/-- The answers to a call. A warning that cannot be published is passed over. -/
def Answer : Call → Type
  | publishWarning .. => Unit
  | call => Except Error call.Result

end Call

/-- A program that makes calls. -/
abbrev Dialogue (α : Type) := DeviceOnboard.Dialogue Call Call.Answer α

end DeviceOnboard.Cluster

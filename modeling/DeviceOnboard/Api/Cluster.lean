import DeviceOnboard.Api.Events
import DeviceOnboard.Cluster.Call

/-!
# The cluster behind the API

Each call to the cluster as the requests that carry it out. A status is stored by a merge patch,
in which the list of pods is written even when it is empty, so that no pod of the old status is
left. The claim for vouchers is made at most once: when it was made by someone else in the
meantime, that is no failure.
-/
namespace DeviceOnboard.Api

open DeviceOnboard.Cluster DeviceOnboard.Json DeviceOnboard.Kubernetes DeviceOnboard.Server

/-- Makes a claim unless there is one of its name. -/
def ensureClaim (ns : String) (c : VolumeClaim) : Exchange (Except Error Unit) :=
  (find? .claims ns c.metadata.nameOrStem VolumeClaim.decode).bind fun
    | .error e => .done (.error e)
    | .ok (some _) => .done (.ok ())
    | .ok none => (create ns c.manifest VolumeClaim.decode).bind fun
      | .ok _ => .done (.ok ())
      | .error (.api e) => .done (if e.code = 409 then .ok () else .error (.api e))
      | .error e => .done (.error e)

/-- The patch that stores a status. -/
def statusPatch (s : Status) : Json := .record [.one "status" s.toJson]

def patchStatus (kind : Kind) (ns name : String) (s : Status) : Exchange (Except Error Unit) :=
  (mergePatch kind.resource ns name "/status" (statusPatch s) (ServerObject.decode kind)).bind
    fun r => .done (r.map fun _ => ())

/-- The metadata of a pod. -/
def decodePod : Decoder Manifest :=
  Manifest.decode .pods [Shape.opt "spec" Shapes.podSpec, Shape.opt "status" Shapes.podStatus]

/-- The names of the pods that a selector matches, in ascending order. -/
def listPodNames (ns selector : String) : Exchange (Except Error (List String)) :=
  (list .pods ns selector decodePod).bind fun r => .done <| r.map fun pods =>
    (pods.map fun p => p.metadata.nameOrStem).mergeSort fun a b => decide (a ≤ b)

/-- Adds a state that does not change. -/
def keeping {α σ : Type} (s : σ) (x : Exchange α) : Exchange (α × σ) := x.bind fun a => .done (a, s)

/-- Carries out a call. The recorder keeps the warnings that were published. -/
def perform (now : Time) : (c : Call) → Recorder → Exchange (c.Answer × Recorder)
  | .applyConfigMap ns m, r => keeping r (apply ns m.manifest ConfigMap.decode)
  | .applyDeployment ns d, r => keeping r (apply ns d.manifest Deployment.decode)
  | .applyService ns s, r => keeping r (apply ns s.manifest Service.decode)
  | .applyRoute ns v, r => keeping r (apply ns v.manifest Route.decode)
  | .ensureClaim ns c, r => keeping r (ensureClaim ns c)
  | .listConfigMaps ns s, r => keeping r (list .configMaps ns s ConfigMap.decode)
  | .listPodNames ns s, r => keeping r (listPodNames ns s)
  | .patchStatus kind ns name s, r => keeping r (patchStatus kind ns name s)
  | .publishWarning reference note, r =>
    (r.publish reference note now).bind fun r => .done ((), r)

/-- Carries out all calls of a dialogue. -/
def performAll {α : Type} (now : Time) (d : Cluster.Dialogue α) (r : Recorder) :
    Exchange (α × Recorder) :=
  d.expand (perform now) r

end DeviceOnboard.Api

import DeviceOnboard.Config.Layout
import DeviceOnboard.Kubernetes.ConfigMap
import DeviceOnboard.Kubernetes.Deployment
import DeviceOnboard.Kubernetes.Route
import DeviceOnboard.Kubernetes.Service
import DeviceOnboard.Kubernetes.VolumeClaim
import DeviceOnboard.Server.Object

/-!
# Objects made for a server

A server consists of configuration maps, a deployment, a service and a route, which carry its
labels and name it as their owner, and of a claim for vouchers, which is shared between servers.
-/
namespace DeviceOnboard.Server

open DeviceOnboard.Config DeviceOnboard.Json DeviceOnboard.Kubernetes

/-! ## Volumes -/

/-- A volume together with the place where it is mounted. -/
structure MountedVolume where
  volume : Volume
  mount : VolumeMount
  deriving Repr

namespace MountedVolume

/-- A configuration map, mounted for reading. -/
def ofConfigMap (name configMap directory : String) : MountedVolume where
  volume := ⟨name, .configMap configMap⟩
  mount := { name := name, mountPath := directory, readOnly := some true }

/-- The name of the volume of a secret. -/
def secretVolumeName (secret : String) : String :=
  if "fdo-".toList.isPrefixOf secret.toList then String.ofList (secret.toList.drop 4) else secret

/-- The file of a key, mounted for reading into a directory. -/
def ofKey (directory : String) (key : KeyFile) : MountedVolume where
  volume := ⟨secretVolumeName key.secret, .secret key.secret [key.file]⟩
  mount :=
    { name := secretVolumeName key.secret, mountPath := directory ++ "/" ++ key.file,
      subPath := some key.file, readOnly := some true }

/-- The name of the claim for vouchers. -/
def voucherClaimName : String := "fdo-ownership-vouchers-pvc"

def voucherVolumeName : String := "ownership-vouchers"

/-- The claim for vouchers, mounted for writing. -/
def vouchers : MountedVolume where
  volume := ⟨voucherVolumeName, .claim voucherClaimName⟩
  mount := { name := voucherVolumeName, mountPath := vouchersDirectory }

end MountedVolume

/-! ## Containers -/

/-- A container without any capabilities that listens on a port. -/
def container (name image : String) (port : UInt16) (mounts : List VolumeMount) : Container where
  name := name
  image := some image
  volumeMounts := some mounts
  others := Members.join
    [.one "ports" (.arr [.record [.one "containerPort" (.int port.toNat)]]),
      .one "securityContext" (.record
        [.one "allowPrivilegeEscalation" (.bool false),
          .one "capabilities" (.record [.one "drop" (.strings ["ALL"])])])]

/-- The security settings of all pods. -/
def podSecurity : Json :=
  .record
    [.one "runAsNonRoot" (.bool true),
      .one "seccompProfile" (.record [.one "type" (.str "RuntimeDefault")])]

/-- A pod with the security settings of all pods in place of its own. -/
def securePod (p : PodSpec) : PodSpec :=
  { p with others := setEntry "securityContext" podSecurity p.others }

/-! ## Children -/

namespace Owner

def configMap (o : Owner) (name file contents : String) : ConfigMap where
  metadata := o.metadata name
  data := some (.ofList [(file, contents)])

def deployment (o : Owner) (replicas : Int32) (pod : PodSpec) : Deployment where
  metadata := o.metadata o.name
  spec := some
    { replicas := some replicas
      selector := { matchLabels := some o.labels }
      template :=
        { metadata := some { labels := some o.labels }
          spec := some (securePod pod) } }

def service (o : Owner) (port : UInt16) : Service where
  metadata := o.metadata o.name
  spec := some
    { selector := some o.labels
      ports := some
        [{ port := Int32.ofNat port.toNat
           targetPort := some (.int (Int32.ofNat port.toNat))
           protocol := some "TCP" }] }

/-- A route to the service of a server. A host that is empty is left to the router. -/
def route (o : Owner) (port : UInt16) (host : Option String) : Route where
  metadata := o.metadata o.name
  spec :=
    { host := host.filter (· ≠ "")
      target := ⟨"Service", o.name⟩
      port := some ⟨.int (Int32.ofNat port.toNat)⟩
      wildcardPolicy := some "None" }
  status := none

end Owner

/-- The claim for vouchers in a namespace. It has no owner, since several servers share it. -/
def voucherClaim («namespace» : String) (storageClass : Option String) : VolumeClaim where
  metadata :=
    { name := some MountedVolume.voucherClaimName
      «namespace» := some «namespace»
      labels := some (.ofList [(appLabel, appName)]) }
  spec := some
    { accessModes := some ["ReadWriteMany"]
      storageClassName := storageClass
      others := .one "resources"
        (.record [.one "requests" (.record [.one "storage" (.str "1Gi")])]) }

end DeviceOnboard.Server

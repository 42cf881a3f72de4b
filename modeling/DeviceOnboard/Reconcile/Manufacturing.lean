import DeviceOnboard.Config.Manufacturing
import DeviceOnboard.Reconcile.Task

/-!
# Bringing a manufacturing server up to date

The pod of a manufacturing server, and the order in which its objects are applied. Nothing is
applied when the configuration is invalid.
-/
namespace DeviceOnboard.Reconcile.Manufacturing

open DeviceOnboard.Config DeviceOnboard.Json DeviceOnboard.Kubernetes DeviceOnboard.Server

def configMapName (server : String) : String := server ++ "-config"

def volumes (server : String) : List MountedVolume :=
  .ofConfigMap "manufacturing-config" (configMapName server) Layout.manufacturing.directory
    :: .vouchers :: (keyFiles .manufacturing).map (.ofKey keysDirectory)

/-- The settings of a container that a specification may give. -/
def settings (s : ManufacturingSpec) : Members :=
  Members.join
    [.opt "env" s.logLevel fun l =>
        .arr [.record [.one "name" (.str "LOG_LEVEL"), .one "value" (.str l.name)]],
      .opt "resources" s.resources ResourceRequirements.toJson]

def pod (server : String) (s : ManufacturingSpec) : PodSpec :=
  let container := container "manufacturing" s.image Layout.manufacturing.port
    ((volumes server).map (·.mount))
  { containers := [{ container with others := settings s ++ container.others }]
    volumes := some ((volumes server).map (·.volume)) }

def deployment (o : Owner) (s : ManufacturingSpec) : Deployment :=
  o.deployment s.replicas (pod o.name s)

def apply (o : Owner) (routes : Bool) (s : ManufacturingSpec) : Task Action := do
  let config ← Task.checked (ManufacturingConfig.ofSpec s)
  if routes then
    let _ ← Task.applyRoute o.namespace (o.route Layout.manufacturing.port s.routeHost)
  let _ ← Task.applyConfigMap o.namespace
    (o.configMap (configMapName o.name) Layout.manufacturing.fileName config.text)
  Task.ensureClaim o.namespace (voucherClaim o.namespace s.storageClassName)
  let _ ← Task.applyDeployment o.namespace (deployment o s)
  let _ ← Task.applyService o.namespace (o.service Layout.manufacturing.port)
  return .awaitChange

end DeviceOnboard.Reconcile.Manufacturing

import DeviceOnboard.Config.Rendezvous
import DeviceOnboard.Reconcile.Task

/-!
# Bringing a rendezvous server up to date

The pod of a rendezvous server, and the order in which its objects are applied.
-/
namespace DeviceOnboard.Reconcile.Rendezvous

open DeviceOnboard.Config DeviceOnboard.Kubernetes DeviceOnboard.Server

def configMapName (server : String) : String := server ++ "-rendezvous-config"

def volumes (server : String) : List MountedVolume :=
  .ofConfigMap "config" (configMapName server) Layout.rendezvous.directory
    :: (keyFiles .rendezvous).map (.ofKey keysDirectory)

def pod (server : String) (s : RendezvousSpec) : PodSpec where
  containers :=
    [container "rendezvous" s.image Layout.rendezvous.port ((volumes server).map (·.mount))]
  volumes := some ((volumes server).map (·.volume))

def deployment (o : Owner) (s : RendezvousSpec) : Deployment := o.deployment 1 (pod o.name s)

def apply (o : Owner) (routes : Bool) (s : RendezvousSpec) : Task Action := do
  let _ ← Task.applyConfigMap o.namespace
    (o.configMap (configMapName o.name) Layout.rendezvous.fileName Config.Rendezvous.text)
  let _ ← Task.applyDeployment o.namespace (deployment o s)
  let _ ← Task.applyService o.namespace (o.service Layout.rendezvous.port)
  if routes then
    let _ ← Task.applyRoute o.namespace (o.route Layout.rendezvous.port none)
  return .awaitChange

end DeviceOnboard.Reconcile.Rendezvous

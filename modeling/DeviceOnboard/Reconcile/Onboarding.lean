import DeviceOnboard.Config.Onboarding
import DeviceOnboard.Config.ServiceInfo
import DeviceOnboard.Reconcile.Task

/-!
# Bringing an owner-onboarding server up to date

The pod of an onboarding server, in which the server for service information runs beside it, and
the order in which its objects are applied. The files for devices come from the configuration
maps that carry the server's name as the value of a label.
-/
namespace DeviceOnboard.Reconcile.Onboarding

open DeviceOnboard.Config DeviceOnboard.Kubernetes DeviceOnboard.Server

def configMapName (server : String) : String := server ++ "-owner-onboarding-config"

def serviceInfoMapName (server : String) : String := server ++ "-serviceinfo-api-config"

/-! ## Files for devices -/

/-- The namespace and the name of the server that a configuration map holds a file for. -/
def fileOwner? (m : ConfigMap) : Option (String × String) := do
  let «namespace» ← m.metadata.namespace
  let owner ← m.metadata.label? fileOwnerLabel
  return («namespace», owner)

/-- The selector of the configuration maps that hold files for a server. -/
def fileSelector (server : String) : String := fileOwnerLabel ++ "=" ++ server

/-- The file that a configuration map holds. -/
def fileOf (m : ConfigMap) : Except Config.Error DeviceFile :=
  DeviceFile.ofConfigMap m.metadata.nameOrStem (m.metadata.annotations.getD .empty) m.keys

/-- The files that configuration maps hold, in order of their names. -/
def filesOf (maps : List ConfigMap) : Except Config.Error (List DeviceFile) :=
  (maps.mapM fileOf).map DeviceFile.sort

/-! ## The pod -/

/-- The volumes of the onboarding server, without those of its keys. -/
def ownVolumes (server : String) : List MountedVolume :=
  [.ofConfigMap "owner-onboarding-config" (configMapName server) Layout.onboarding.directory,
    .vouchers]

def keyVolumes : List MountedVolume := (keyFiles .onboarding).map (.ofKey keysDirectory)

def serviceInfoVolume (server : String) : MountedVolume :=
  .ofConfigMap "serviceinfo-api-config" (serviceInfoMapName server) Layout.serviceInfo.directory

/-- The volumes of files for devices. They are numbered, since the name of a configuration map is
not always a valid name of a volume. -/
def fileVolumes (files : List DeviceFile) : List MountedVolume :=
  files.mapIdx fun i f =>
    .ofConfigMap ("serviceinfo-file-" ++ toString i) f.configMap f.mountPath

def pod (server : String) (s : OnboardingSpec) (files : List DeviceFile) : PodSpec where
  containers :=
    [container "owner-onboarding" s.ownerOnboardingImage Layout.onboarding.port
        ((ownVolumes server ++ keyVolumes).map (·.mount)),
      container "serviceinfo-api" s.serviceInfoImage Layout.serviceInfo.port
        ((serviceInfoVolume server :: fileVolumes files).map (·.mount))]
  volumes := some <| (ownVolumes server ++ serviceInfoVolume server :: keyVolumes
    ++ fileVolumes files).map (·.volume)

def deployment (o : Owner) (s : OnboardingSpec) (files : List DeviceFile) : Deployment :=
  o.deployment 1 (pod o.name s files)

/-! ## The steps -/

/-- The seconds after which a server is looked at again, in case that a change of a file was
missed. -/
def resyncSeconds : Nat := 300

/-- The host of the server's route, when there are routes. -/
def routeHost (o : Owner) (routes : Bool) : Task (Option String) := do
  if routes then
    let route ← Task.applyRoute o.namespace (o.route Layout.onboarding.port none)
    return route.host?
  else
    return none

def apply (o : Owner) (routes : Bool) (s : OnboardingSpec) : Task Action := do
  let host ← routeHost o routes
  let config ← Task.checked (OnboardingConfig.ofSpec s host)
  let _ ← Task.applyConfigMap o.namespace
    (o.configMap (configMapName o.name) Layout.onboarding.fileName config.text)
  let maps ← Task.listConfigMaps o.namespace (fileSelector o.name)
  let files ← Task.checked (filesOf maps)
  let info := ServiceInfoConfig.ofSpec s.serviceInfo files
  let _ ← Task.applyConfigMap o.namespace
    (o.configMap (serviceInfoMapName o.name) Layout.serviceInfo.fileName info.text)
  Task.ensureClaim o.namespace (voucherClaim o.namespace none)
  let _ ← Task.applyDeployment o.namespace (deployment o s files)
  let _ ← Task.applyService o.namespace (o.service Layout.onboarding.port)
  return .requeue resyncSeconds

end DeviceOnboard.Reconcile.Onboarding

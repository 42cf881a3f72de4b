import DeviceOnboard.Json.Shape

/-!
# The fields of pods

The fields that Kubernetes 1.33 defines for the specification and the status of a pod, for
containers and for volumes.
-/
namespace DeviceOnboard.Kubernetes.Shapes

open DeviceOnboard.Json
open DeviceOnboard.Json.Shape

def texts : Shape := .list .text

def labelSelectorRequirement : Shape :=
  .object "LabelSelectorRequirement" (reqs .text ["key", "operator"] ++ [opt "values" texts])

def labelSelector : Shape :=
  .object "LabelSelector"
    [opt "matchExpressions" (.list labelSelectorRequirement), opt "matchLabels" (.dictionary .text)]

def ownerReference : Shape :=
  .object "OwnerReference"
    (reqs .text ["apiVersion", "kind", "name", "uid"]
      ++ opts .boolean ["blockOwnerDeletion", "controller"])

def managedFieldsEntry : Shape :=
  .object "ManagedFieldsEntry"
    (opts .text ["apiVersion", "fieldsType", "manager", "operation", "subresource"]
      ++ [opt "fieldsV1" .any, opt "time" .time])

/-- The fields of object metadata that this library does not read. -/
def metadataRest : List (String × Bool × Shape) :=
  opts .time ["creationTimestamp", "deletionTimestamp"]
    ++ [opt "deletionGracePeriodSeconds" .int64, opt "finalizers" texts,
      opt "managedFields" (.list managedFieldsEntry), opt "selfLink" .text]

def objectMeta : Shape :=
  .object "ObjectMeta"
    (opts .text ["name", "generateName", "namespace", "uid", "resourceVersion"]
      ++ [opt "generation" .int64]
      ++ opts (.dictionary .text) ["labels", "annotations"]
      ++ [opt "ownerReferences" (.list ownerReference)] ++ metadataRest)

def listMeta : Shape :=
  .object "ListMeta"
    (opts .text ["continue", "resourceVersion", "selfLink"] ++ [opt "remainingItemCount" .int64])

/-! ## Resources and references -/

def resourceClaim : Shape := .object "ResourceClaim" [req "name" .text, opt "request" .text]

def resourceRequirements : Shape :=
  .object "ResourceRequirements"
    (opt "claims" (.list resourceClaim) :: opts (.dictionary .text) ["limits", "requests"])

def localObjectReference : Shape := .object "LocalObjectReference" [req "name" .text]

def keySelector (typeName : String) : Shape :=
  .object typeName (reqs .text ["key", "name"] ++ [opt "optional" .boolean])

def objectFieldSelector : Shape :=
  .object "ObjectFieldSelector" [opt "apiVersion" .text, req "fieldPath" .text]

def resourceFieldSelector : Shape :=
  .object "ResourceFieldSelector"
    (opts .text ["containerName", "divisor"] ++ [req "resource" .text])

def typedLocalObjectReference : Shape :=
  .object "TypedLocalObjectReference" (opt "apiGroup" .text :: reqs .text ["kind", "name"])

def typedObjectReference : Shape :=
  .object "TypedObjectReference"
    (opts .text ["apiGroup", "namespace"] ++ reqs .text ["kind", "name"])

/-! ## Security -/

def seLinuxOptions : Shape :=
  .object "SELinuxOptions" (opts .text ["level", "role", "type", "user"])

def seccompProfile : Shape :=
  .object "SeccompProfile" [opt "localhostProfile" .text, req "type" .text]

def appArmorProfile : Shape :=
  .object "AppArmorProfile" [opt "localhostProfile" .text, req "type" .text]

def windowsOptions : Shape :=
  .object "WindowsSecurityContextOptions"
    (opts .text ["gmsaCredentialSpec", "gmsaCredentialSpecName", "runAsUserName"]
      ++ [opt "hostProcess" .boolean])

def capabilities : Shape := .object "Capabilities" (opts texts ["add", "drop"])

def securityContext : Shape :=
  .object "SecurityContext"
    (opts .boolean ["allowPrivilegeEscalation", "privileged", "readOnlyRootFilesystem",
        "runAsNonRoot"]
      ++ opts .int64 ["runAsGroup", "runAsUser"]
      ++ [opt "appArmorProfile" appArmorProfile, opt "capabilities" capabilities,
        opt "procMount" .text, opt "seLinuxOptions" seLinuxOptions,
        opt "seccompProfile" seccompProfile, opt "windowsOptions" windowsOptions])

def sysctl : Shape := .object "Sysctl" (reqs .text ["name", "value"])

def podSecurityContext : Shape :=
  .object "PodSecurityContext"
    (opts .int64 ["fsGroup", "runAsGroup", "runAsUser"]
      ++ opts .text ["fsGroupChangePolicy", "seLinuxChangePolicy", "supplementalGroupsPolicy"]
      ++ [opt "appArmorProfile" appArmorProfile, opt "runAsNonRoot" .boolean,
        opt "seLinuxOptions" seLinuxOptions, opt "seccompProfile" seccompProfile,
        opt "supplementalGroups" (.list .int64), opt "sysctls" (.list sysctl),
        opt "windowsOptions" windowsOptions])

/-! ## Containers -/

def envVarSource : Shape :=
  .object "EnvVarSource"
    [opt "configMapKeyRef" (keySelector "ConfigMapKeySelector"),
      opt "fieldRef" objectFieldSelector, opt "resourceFieldRef" resourceFieldSelector,
      opt "secretKeyRef" (keySelector "SecretKeySelector")]

def envVar : Shape :=
  .object "EnvVar" [req "name" .text, opt "value" .text, opt "valueFrom" envVarSource]

def envFromSource : Shape :=
  .object "EnvFromSource"
    [opt "configMapRef" (.object "ConfigMapEnvSource" [req "name" .text, opt "optional" .boolean]),
      opt "prefix" .text,
      opt "secretRef" (.object "SecretEnvSource" [req "name" .text, opt "optional" .boolean])]

def execAction : Shape := .object "ExecAction" [opt "command" texts]

def httpHeader : Shape := .object "HTTPHeader" (reqs .text ["name", "value"])

def httpGetAction : Shape :=
  .object "HTTPGetAction"
    (opts .text ["host", "path", "scheme"]
      ++ [opt "httpHeaders" (.list httpHeader), req "port" .intOrString])

def tcpSocketAction : Shape :=
  .object "TCPSocketAction" [opt "host" .text, req "port" .intOrString]

def lifecycleHandler : Shape :=
  .object "LifecycleHandler"
    [opt "exec" execAction, opt "httpGet" httpGetAction,
      opt "sleep" (.object "SleepAction" [req "seconds" .int64]), opt "tcpSocket" tcpSocketAction]

def lifecycle : Shape :=
  .object "Lifecycle"
    (opts lifecycleHandler ["postStart", "preStop"] ++ [opt "stopSignal" .text])

def probe : Shape :=
  .object "Probe"
    (opts .int32 ["failureThreshold", "initialDelaySeconds", "periodSeconds", "successThreshold",
        "timeoutSeconds"]
      ++ [opt "exec" execAction,
        opt "grpc" (.object "GRPCAction" [req "port" .int32, opt "service" .text]),
        opt "httpGet" httpGetAction, opt "tcpSocket" tcpSocketAction,
        opt "terminationGracePeriodSeconds" .int64])

def containerPort : Shape :=
  .object "ContainerPort"
    ([req "containerPort" .int32, opt "hostPort" .int32]
      ++ opts .text ["hostIP", "name", "protocol"])

def volumeMount : Shape :=
  .object "VolumeMount"
    (reqs .text ["mountPath", "name"]
      ++ opts .text ["mountPropagation", "recursiveReadOnly", "subPath", "subPathExpr"]
      ++ [opt "readOnly" .boolean])

/-- The fields of every kind of container besides its name. -/
def containerRest : List (String × Bool × Shape) :=
  opts texts ["args", "command"]
    ++ [opt "env" (.list envVar), opt "envFrom" (.list envFromSource)]
    ++ opts .text ["image", "imagePullPolicy", "restartPolicy", "terminationMessagePath",
      "terminationMessagePolicy", "workingDir"]
    ++ [opt "lifecycle" lifecycle]
    ++ opts probe ["livenessProbe", "readinessProbe", "startupProbe"]
    ++ [opt "ports" (.list containerPort),
      opt "resizePolicy" (.list (.object "ContainerResizePolicy"
        (reqs .text ["resourceName", "restartPolicy"]))),
      opt "resources" resourceRequirements, opt "securityContext" securityContext]
    ++ opts .boolean ["stdin", "stdinOnce", "tty"]
    ++ [opt "volumeDevices" (.list (.object "VolumeDevice" (reqs .text ["devicePath", "name"]))),
      opt "volumeMounts" (.list volumeMount)]

def container : Shape := .object "Container" (req "name" .text :: containerRest)

def ephemeralContainer : Shape :=
  .object "EphemeralContainer"
    ([req "name" .text, opt "targetContainerName" .text] ++ containerRest)

/-! ## Volumes -/

def keyToPath : Shape := .object "KeyToPath" (reqs .text ["key", "path"] ++ [opt "mode" .int32])

def downwardFile : Shape :=
  .object "DownwardAPIVolumeFile"
    [opt "fieldRef" objectFieldSelector, opt "mode" .int32, req "path" .text,
      opt "resourceFieldRef" resourceFieldSelector]

def claimResources : Shape :=
  .object "VolumeResourceRequirements" (opts (.dictionary .text) ["limits", "requests"])

/-- The fields of a claim's specification besides its access modes and its class. -/
def claimSpecRest : List (String × Bool × Shape) :=
  [opt "dataSource" typedLocalObjectReference, opt "dataSourceRef" typedObjectReference,
      opt "resources" claimResources, opt "selector" labelSelector]
    ++ opts .text ["volumeAttributesClassName", "volumeMode", "volumeName"]

def claimSpec : Shape :=
  .object "PersistentVolumeClaimSpec"
    (opt "accessModes" texts :: opt "storageClassName" .text :: claimSpecRest)

def projection (typeName : String) : Shape :=
  .object typeName [opt "items" (.list keyToPath), req "name" .text, opt "optional" .boolean]

def volumeProjection : Shape :=
  .object "VolumeProjection"
    [opt "clusterTrustBundle" (.object "ClusterTrustBundleProjection"
        ([opt "labelSelector" labelSelector, opt "optional" .boolean, req "path" .text]
          ++ opts .text ["name", "signerName"])),
      opt "configMap" (projection "ConfigMapProjection"),
      opt "downwardAPI" (.object "DownwardAPIProjection" [opt "items" (.list downwardFile)]),
      opt "secret" (projection "SecretProjection"),
      opt "serviceAccountToken" (.object "ServiceAccountTokenProjection"
        [opt "audience" .text, opt "expirationSeconds" .int64, req "path" .text])]

/-- Volumes on the block devices and file systems of cloud providers. -/
def providerVolumes : List (String × Bool × Shape) :=
  [opt "awsElasticBlockStore" (.object "AWSElasticBlockStoreVolumeSource"
      [opt "fsType" .text, opt "partition" .int32, opt "readOnly" .boolean, req "volumeID" .text]),
    opt "azureDisk" (.object "AzureDiskVolumeSource"
      (reqs .text ["diskName", "diskURI"] ++ opts .text ["cachingMode", "fsType", "kind"]
        ++ [opt "readOnly" .boolean])),
    opt "azureFile" (.object "AzureFileVolumeSource"
      (reqs .text ["secretName", "shareName"] ++ [opt "readOnly" .boolean])),
    opt "cinder" (.object "CinderVolumeSource"
      [opt "fsType" .text, opt "readOnly" .boolean, opt "secretRef" localObjectReference,
        req "volumeID" .text]),
    opt "gcePersistentDisk" (.object "GCEPersistentDiskVolumeSource"
      [opt "fsType" .text, opt "partition" .int32, req "pdName" .text, opt "readOnly" .boolean]),
    opt "photonPersistentDisk" (.object "PhotonPersistentDiskVolumeSource"
      [opt "fsType" .text, req "pdID" .text]),
    opt "portworxVolume" (.object "PortworxVolumeSource"
      [opt "fsType" .text, opt "readOnly" .boolean, req "volumeID" .text]),
    opt "vsphereVolume" (.object "VsphereVirtualDiskVolumeSource"
      (opts .text ["fsType", "storagePolicyID", "storagePolicyName"] ++ [req "volumePath" .text]))]

/-- Volumes served over a network. -/
def networkVolumes : List (String × Bool × Shape) :=
  [opt "cephfs" (.object "CephFSVolumeSource"
      ([req "monitors" texts, opt "readOnly" .boolean, opt "secretRef" localObjectReference]
        ++ opts .text ["path", "secretFile", "user"])),
    opt "fc" (.object "FCVolumeSource"
      ([opt "fsType" .text, opt "lun" .int32, opt "readOnly" .boolean]
        ++ opts texts ["targetWWNs", "wwids"])),
    opt "flocker" (.object "FlockerVolumeSource" (opts .text ["datasetName", "datasetUUID"])),
    opt "glusterfs" (.object "GlusterfsVolumeSource"
      (reqs .text ["endpoints", "path"] ++ [opt "readOnly" .boolean])),
    opt "iscsi" (.object "ISCSIVolumeSource"
      (opts .boolean ["chapAuthDiscovery", "chapAuthSession", "readOnly"]
        ++ opts .text ["fsType", "initiatorName", "iscsiInterface"]
        ++ reqs .text ["iqn", "targetPortal"]
        ++ [req "lun" .int32, opt "portals" texts, opt "secretRef" localObjectReference])),
    opt "nfs" (.object "NFSVolumeSource"
      (reqs .text ["path", "server"] ++ [opt "readOnly" .boolean])),
    opt "quobyte" (.object "QuobyteVolumeSource"
      (opts .text ["group", "tenant", "user"] ++ reqs .text ["registry", "volume"]
        ++ [opt "readOnly" .boolean])),
    opt "rbd" (.object "RBDVolumeSource"
      (opts .text ["fsType", "keyring", "pool", "user"]
        ++ [req "image" .text, req "monitors" texts, opt "readOnly" .boolean,
          opt "secretRef" localObjectReference])),
    opt "scaleIO" (.object "ScaleIOVolumeSource"
      (opts .text ["fsType", "protectionDomain", "storageMode", "storagePool", "volumeName"]
        ++ reqs .text ["gateway", "system"] ++ opts .boolean ["readOnly", "sslEnabled"]
        ++ [req "secretRef" localObjectReference])),
    opt "storageos" (.object "StorageOSVolumeSource"
      (opts .text ["fsType", "volumeName", "volumeNamespace"]
        ++ [opt "readOnly" .boolean, opt "secretRef" localObjectReference]))]

/-- Volumes of the cluster itself. -/
def clusterVolumes : List (String × Bool × Shape) :=
  [opt "configMap" (.object "ConfigMapVolumeSource"
      [opt "defaultMode" .int32, opt "items" (.list keyToPath), req "name" .text,
        opt "optional" .boolean]),
    opt "csi" (.object "CSIVolumeSource"
      [req "driver" .text, opt "fsType" .text, opt "nodePublishSecretRef" localObjectReference,
        opt "readOnly" .boolean, opt "volumeAttributes" (.dictionary .text)]),
    opt "downwardAPI" (.object "DownwardAPIVolumeSource"
      [opt "defaultMode" .int32, opt "items" (.list downwardFile)]),
    opt "emptyDir" (.object "EmptyDirVolumeSource" (opts .text ["medium", "sizeLimit"])),
    opt "ephemeral" (.object "EphemeralVolumeSource"
      [opt "volumeClaimTemplate" (.object "PersistentVolumeClaimTemplate"
        [opt "metadata" objectMeta, req "spec" claimSpec])]),
    opt "flexVolume" (.object "FlexVolumeSource"
      [req "driver" .text, opt "fsType" .text, opt "options" (.dictionary .text),
        opt "readOnly" .boolean, opt "secretRef" localObjectReference]),
    opt "gitRepo" (.object "GitRepoVolumeSource"
      (opts .text ["directory", "revision"] ++ [req "repository" .text])),
    opt "hostPath" (.object "HostPathVolumeSource" [req "path" .text, opt "type" .text]),
    opt "image" (.object "ImageVolumeSource" (opts .text ["pullPolicy", "reference"])),
    opt "persistentVolumeClaim" (.object "PersistentVolumeClaimVolumeSource"
      [req "claimName" .text, opt "readOnly" .boolean]),
    opt "projected" (.object "ProjectedVolumeSource"
      [opt "defaultMode" .int32, opt "sources" (.list volumeProjection)]),
    opt "secret" (.object "SecretVolumeSource"
      [opt "defaultMode" .int32, opt "items" (.list keyToPath), opt "optional" .boolean,
        opt "secretName" .text])]

def volume : Shape :=
  .object "Volume" (req "name" .text :: (providerVolumes ++ networkVolumes ++ clusterVolumes))

/-! ## Scheduling -/

def nodeSelectorRequirement : Shape :=
  .object "NodeSelectorRequirement" (reqs .text ["key", "operator"] ++ [opt "values" texts])

def nodeSelectorTerm : Shape :=
  .object "NodeSelectorTerm"
    (opts (.list nodeSelectorRequirement) ["matchExpressions", "matchFields"])

def nodeAffinity : Shape :=
  .object "NodeAffinity"
    [opt "preferredDuringSchedulingIgnoredDuringExecution" (.list
        (.object "PreferredSchedulingTerm"
          [req "preference" nodeSelectorTerm, req "weight" .int32])),
      opt "requiredDuringSchedulingIgnoredDuringExecution"
        (.object "NodeSelector" [req "nodeSelectorTerms" (.list nodeSelectorTerm)])]

def podAffinityTerm : Shape :=
  .object "PodAffinityTerm"
    (opts labelSelector ["labelSelector", "namespaceSelector"]
      ++ opts texts ["matchLabelKeys", "mismatchLabelKeys", "namespaces"]
      ++ [req "topologyKey" .text])

def podAffinity (typeName : String) : Shape :=
  .object typeName
    [opt "preferredDuringSchedulingIgnoredDuringExecution" (.list
        (.object "WeightedPodAffinityTerm"
          [req "podAffinityTerm" podAffinityTerm, req "weight" .int32])),
      opt "requiredDuringSchedulingIgnoredDuringExecution" (.list podAffinityTerm)]

def affinity : Shape :=
  .object "Affinity"
    [opt "nodeAffinity" nodeAffinity, opt "podAffinity" (podAffinity "PodAffinity"),
      opt "podAntiAffinity" (podAffinity "PodAntiAffinity")]

def toleration : Shape :=
  .object "Toleration"
    (opts .text ["effect", "key", "operator", "value"] ++ [opt "tolerationSeconds" .int64])

def topologySpreadConstraint : Shape :=
  .object "TopologySpreadConstraint"
    ([opt "labelSelector" labelSelector, opt "matchLabelKeys" texts, req "maxSkew" .int32,
        opt "minDomains" .int32]
      ++ opts .text ["nodeAffinityPolicy", "nodeTaintsPolicy"]
      ++ reqs .text ["topologyKey", "whenUnsatisfiable"])

/-! ## Pods -/

def podDNSConfig : Shape :=
  .object "PodDNSConfig"
    (opts texts ["nameservers", "searches"]
      ++ [opt "options" (.list (.object "PodDNSConfigOption" (opts .text ["name", "value"])))])

/-- The fields of a pod specification besides its containers. -/
def podSpecRest : List (String × Bool × Shape) :=
  opts .int64 ["activeDeadlineSeconds", "terminationGracePeriodSeconds"]
    ++ opts .boolean ["automountServiceAccountToken", "enableServiceLinks", "hostIPC",
      "hostNetwork", "hostPID", "hostUsers", "setHostnameAsFQDN", "shareProcessNamespace"]
    ++ opts .text ["dnsPolicy", "hostname", "nodeName", "preemptionPolicy", "priorityClassName",
      "restartPolicy", "runtimeClassName", "schedulerName", "serviceAccount",
      "serviceAccountName", "subdomain"]
    ++ [opt "affinity" affinity, opt "dnsConfig" podDNSConfig,
      opt "ephemeralContainers" (.list ephemeralContainer),
      opt "hostAliases" (.list (.object "HostAlias" [opt "hostnames" texts, req "ip" .text])),
      opt "imagePullSecrets" (.list localObjectReference),
      opt "initContainers" (.list container), opt "nodeSelector" (.dictionary .text),
      opt "os" (.object "PodOS" [req "name" .text]), opt "overhead" (.dictionary .text),
      opt "priority" .int32,
      opt "readinessGates" (.list (.object "PodReadinessGate" [req "conditionType" .text])),
      opt "resourceClaims" (.list (.object "PodResourceClaim"
        (req "name" .text :: opts .text ["resourceClaimName", "resourceClaimTemplateName"]))),
      opt "resources" resourceRequirements,
      opt "schedulingGates" (.list (.object "PodSchedulingGate" [req "name" .text])),
      opt "securityContext" podSecurityContext, opt "tolerations" (.list toleration),
      opt "topologySpreadConstraints" (.list topologySpreadConstraint),
      opt "volumes" (.list volume)]

def podSpec : Shape :=
  .object "PodSpec" (req "containers" (.list container) :: podSpecRest)

def containerState : Shape :=
  .object "ContainerState"
    [opt "running" (.object "ContainerStateRunning" [opt "startedAt" .time]),
      opt "terminated" (.object "ContainerStateTerminated"
        (opts .text ["containerID", "message", "reason"] ++ [req "exitCode" .int32]
          ++ opts .time ["finishedAt", "startedAt"] ++ [opt "signal" .int32])),
      opt "waiting" (.object "ContainerStateWaiting" (opts .text ["message", "reason"]))]

def containerStatus : Shape :=
  .object "ContainerStatus"
    ([opt "allocatedResources" (.dictionary .text),
        opt "allocatedResourcesStatus" (.list (.object "ResourceStatus"
          [req "name" .text, opt "resources" (.list (.object "ResourceHealth"
            [opt "health" .text, req "resourceID" .text]))])),
        opt "containerID" .text, opt "lastState" containerState,
        req "ready" .boolean, opt "resources" resourceRequirements, req "restartCount" .int32,
        opt "started" .boolean, opt "state" containerState, opt "stopSignal" .text,
        opt "user" (.object "ContainerUser" [opt "linux" (.object "LinuxContainerUser"
          [req "gid" .int64, opt "supplementalGroups" (.list .int64), req "uid" .int64])]),
        opt "volumeMounts" (.list (.object "VolumeMountStatus"
          (reqs .text ["mountPath", "name"]
            ++ [opt "readOnly" .boolean, opt "recursiveReadOnly" .text])))]
      ++ reqs .text ["image", "imageID", "name"])

def podCondition : Shape :=
  .object "PodCondition"
    (opts .time ["lastProbeTime", "lastTransitionTime"] ++ opts .text ["message", "reason"]
      ++ [opt "observedGeneration" .int64] ++ reqs .text ["status", "type"])

def podStatus : Shape :=
  .object "PodStatus"
    (opts .text ["hostIP", "message", "nominatedNodeName", "phase", "podIP", "qosClass", "reason",
        "resize"]
      ++ opts (.list containerStatus)
        ["containerStatuses", "ephemeralContainerStatuses", "initContainerStatuses"]
      ++ [opt "conditions" (.list podCondition),
        opt "hostIPs" (.list (.object "HostIP" [req "ip" .text])),
        opt "observedGeneration" .int64,
        opt "podIPs" (.list (.object "PodIP" [req "ip" .text])),
        opt "resourceClaimStatuses" (.list (.object "PodResourceClaimStatus"
          [req "name" .text, opt "resourceClaimName" .text])),
        opt "startTime" .time])

end DeviceOnboard.Kubernetes.Shapes

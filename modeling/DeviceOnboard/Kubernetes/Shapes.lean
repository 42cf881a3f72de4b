import DeviceOnboard.Kubernetes.PodShapes

/-!
# The fields of the objects a server consists of

The fields that Kubernetes 1.33 defines for deployments, services, volume claims, configuration
maps and events.
-/
namespace DeviceOnboard.Kubernetes.Shapes

open DeviceOnboard.Json
open DeviceOnboard.Json.Shape

def condition : Shape :=
  .object "Condition"
    (req "lastTransitionTime" .time :: opt "observedGeneration" .int64
      :: reqs .text ["message", "reason", "status", "type"])

/-- The fields of a deployment's specification besides replicas, selector and template. -/
def deploymentSpecRest : List (String × Bool × Shape) :=
  opts .int32 ["minReadySeconds", "progressDeadlineSeconds", "revisionHistoryLimit"]
    ++ [opt "paused" .boolean,
      opt "strategy" (.object "DeploymentStrategy"
        [opt "rollingUpdate" (.object "RollingUpdateDeployment"
          (opts .intOrString ["maxSurge", "maxUnavailable"])), opt "type" .text])]

def deploymentStatus : Shape :=
  .object "DeploymentStatus"
    (opts .int32 ["availableReplicas", "collisionCount", "readyReplicas", "replicas",
        "terminatingReplicas", "unavailableReplicas", "updatedReplicas"]
      ++ [opt "conditions" (.list (.object "DeploymentCondition"
          (opts .time ["lastTransitionTime", "lastUpdateTime"] ++ opts .text ["message", "reason"]
            ++ reqs .text ["status", "type"]))),
        opt "observedGeneration" .int64])

/-- The fields of a service's port besides its numbers and its protocol. -/
def servicePortRest : List (String × Bool × Shape) :=
  opts .text ["appProtocol", "name"] ++ [opt "nodePort" .int32]

/-- The fields of a service's specification besides its ports and its selector. -/
def serviceSpecRest : List (String × Bool × Shape) :=
  opts .boolean ["allocateLoadBalancerNodePorts", "publishNotReadyAddresses"]
    ++ opts .text ["clusterIP", "externalName", "externalTrafficPolicy",
      "internalTrafficPolicy", "ipFamilyPolicy", "loadBalancerClass", "loadBalancerIP",
      "sessionAffinity", "trafficDistribution", "type"]
    ++ opts texts ["clusterIPs", "externalIPs", "ipFamilies", "loadBalancerSourceRanges"]
    ++ [opt "healthCheckNodePort" .int32,
      opt "sessionAffinityConfig" (.object "SessionAffinityConfig"
        [opt "clientIP" (.object "ClientIPConfig" [opt "timeoutSeconds" .int32])])]

def serviceStatus : Shape :=
  .object "ServiceStatus"
    [opt "conditions" (.list condition),
      opt "loadBalancer" (.object "LoadBalancerStatus"
        [opt "ingress" (.list (.object "LoadBalancerIngress"
          (opts .text ["hostname", "ip", "ipMode"]
            ++ [opt "ports" (.list (.object "PortStatus"
              [opt "error" .text, req "port" .int32, req "protocol" .text]))])))])]

def claimStatus : Shape :=
  .object "PersistentVolumeClaimStatus"
    ([opt "accessModes" texts]
      ++ opts (.dictionary .text) ["allocatedResourceStatuses", "allocatedResources", "capacity"]
      ++ [opt "conditions" (.list (.object "PersistentVolumeClaimCondition"
          (opts .time ["lastProbeTime", "lastTransitionTime"] ++ opts .text ["message", "reason"]
            ++ reqs .text ["status", "type"]))),
        opt "currentVolumeAttributesClassName" .text,
        opt "modifyVolumeStatus" (.object "ModifyVolumeStatus"
          [req "status" .text, opt "targetVolumeAttributesClassName" .text]),
        opt "phase" .text])

def objectReference : Shape :=
  .object "ObjectReference"
    (opts .text ["apiVersion", "fieldPath", "kind", "name", "namespace", "resourceVersion", "uid"])

/-- The fields of an event besides its metadata. -/
def eventRest : List (String × Bool × Shape) :=
  opts .text ["action", "note", "reason", "reportingController", "reportingInstance", "type"]
    ++ [opt "deprecatedCount" .int32]
    ++ opts .time ["deprecatedFirstTimestamp", "deprecatedLastTimestamp"]
    ++ [opt "deprecatedSource" (.object "EventSource" (opts .text ["component", "host"])),
      opt "eventTime" .preciseTime]
    ++ opts objectReference ["regarding", "related"]
    ++ [opt "series" (.object "EventSeries"
        [req "count" .int32, req "lastObservedTime" .preciseTime])]

end DeviceOnboard.Kubernetes.Shapes

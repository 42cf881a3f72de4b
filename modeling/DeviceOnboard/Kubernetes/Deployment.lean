import DeviceOnboard.Kubernetes.Pod
import DeviceOnboard.Kubernetes.Shapes

/-!
# Deployments

A deployment keeps a number of pods running, which it finds again by their labels.
-/
namespace DeviceOnboard.Kubernetes

open DeviceOnboard.Json

/-- The labels that pods are selected by. -/
structure LabelSelector where
  matchLabels : Option (Dictionary String) := none
  others : Members := []
  deriving Repr

namespace LabelSelector

def record : Record LabelSelector :=
  LabelSelector.mk <$> .optional "matchLabels" (.dictionary .string)
    <*> .carried [Shape.opt "matchExpressions" (.list Shapes.labelSelectorRequirement)]

def decode : Decoder LabelSelector := record.decodeKubernetes "LabelSelector"

def toJson (s : LabelSelector) : Json :=
  .obj (sortEntries (s.others ++ Members.opt "matchLabels" s.matchLabels .dict))

end LabelSelector

structure DeploymentSpec where
  replicas : Option Int32 := none
  selector : LabelSelector := {}
  template : PodTemplate := {}
  others : Members := []
  deriving Repr

namespace DeploymentSpec

def record : Record DeploymentSpec :=
  DeploymentSpec.mk <$> .optional "replicas" (Decoder.int32.map Int32.ofInt)
    <*> .orEmpty "selector" LabelSelector.decode {} <*> .orEmpty "template" PodTemplate.decode {}
    <*> .carried Shapes.deploymentSpecRest

def decode : Decoder DeploymentSpec := record.decodeKubernetes "DeploymentSpec"

def toJson (s : DeploymentSpec) : Json :=
  .obj <| sortEntries <| s.others ++ Members.join
    [.opt "replicas" s.replicas fun n => .int n.toInt, .one "selector" s.selector.toJson,
      .one "template" s.template.toJson]

end DeploymentSpec

structure Deployment where
  metadata : ObjectMeta
  spec : Option DeploymentSpec := none
  others : Members := []
  deriving Repr

namespace Deployment

def record : Record Deployment :=
  (fun _ _ metadata spec others => ⟨metadata, spec, others⟩)
    <$> .constant "apiVersion" Resource.deployments.apiVersion
    <*> .constant "kind" Resource.deployments.kind <*> .orEmpty "metadata" ObjectMeta.decode {}
    <*> .optional "spec" DeploymentSpec.decode
    <*> .carried [Shape.opt "status" Shapes.deploymentStatus]

def decode : Decoder Deployment := record.decodeKubernetes "Deployment"

def manifest (d : Deployment) : Manifest where
  resource := .deployments
  metadata := d.metadata
  content := Members.opt "spec" d.spec DeploymentSpec.toJson ++ d.others

def toJson (d : Deployment) : Json := d.manifest.toJson

end Deployment

end DeviceOnboard.Kubernetes

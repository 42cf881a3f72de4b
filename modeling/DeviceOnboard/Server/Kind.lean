import DeviceOnboard.Kubernetes.Resource

/-!
# Kinds of servers and their labels

The three kinds of device-onboarding servers, the resources that describe them, and the labels by
which the objects of one server are found.
-/
namespace DeviceOnboard.Server

open DeviceOnboard.Kubernetes

inductive Kind where
  | manufacturing | onboarding | rendezvous
  deriving DecidableEq, Repr

namespace Kind

def all : List Kind := [manufacturing, onboarding, rendezvous]

/-- The name of the service that a server of this kind offers. -/
def service : Kind → String
  | manufacturing => "manufacturing"
  | onboarding => "owner-onboarding"
  | rendezvous => "rendezvous"

/-- The resource that describes servers of this kind. -/
def resource : Kind → Resource
  | manufacturing =>
    ⟨"fdo.redhat.com", "v1alpha1", "FDOManufacturingServer", "fdomanufacturingservers"⟩
  | onboarding => ⟨"fdo.redhat.com", "v1alpha1", "FDOOnboardingServer", "fdoonboardingservers"⟩
  | rendezvous => ⟨"fdo.redhat.com", "v1alpha1", "FDORendezvousServer", "fdorendezvousservers"⟩

end Kind

/-- The label that every object made for a server carries, with the value `appName`. -/
def appLabel : String := "app"

def appName : String := "fdo"

def instanceLabel : String := "app.kubernetes.io/instance"

def serviceLabel : String := "fdo-service"

/-- The label of a configuration map that holds a file for devices: its value names the onboarding
server that delivers the file. -/
def fileOwnerLabel : String := "serviceinfo.file/owner"

/-- The labels of the objects of one server, which also select its pods. -/
def Kind.labels (kind : Kind) (name : String) : Dictionary String :=
  .ofList [(appLabel, appName), (serviceLabel, kind.service), (instanceLabel, name)]

/-- A label selector that asks for the given labels. -/
def selectorOf (labels : Dictionary String) : String :=
  ",".intercalate (labels.entries.map fun e => e.1 ++ "=" ++ e.2)

/-- The selector of the pods of one server. -/
def Kind.selector (kind : Kind) (name : String) : String := selectorOf (kind.labels name)

end DeviceOnboard.Server

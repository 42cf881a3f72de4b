import DeviceOnboard.Schema.Kubernetes
import DeviceOnboard.Server.Object

/-!
# Schemas of servers

What the API allows as the specification and the status of a server. Fields that have a default
value are not required, and those that are left out when they are empty have none in the schema.
-/
namespace DeviceOnboard.Schema

open DeviceOnboard.Json DeviceOnboard.Server

/-- A number of 16 bits. -/
def port : Schema := .integer "uint16" (some 0)

/-- A string that may be unset. -/
def optionalString : Schema := string.nullable

/-- Strings, which are none when they are not given. -/
def stringList : Schema := (list string).withDefault (.arr [])

/-- A switch that is off when it is not given. -/
def switch : Schema := boolean.withDefault (.bool false)

def transport : Schema :=
  (choice (Transport.all.map Transport.name)).described
    "Transport protocols understood by FDO clients and servers."

/-! ## Manufacturing servers -/

def rendezvousServer : Schema :=
  (object
    [("devicePort", port.nullable.described "Rendezvous port for device connections."),
      ("dns", optionalString), ("ipAddress", optionalString),
      ("ownerPort", port.nullable.described "Rendezvous port for owner connections."),
      ("protocol", transport.nullable)]
    []).described
    ("A rendezvous server entry written into device credentials.\n\n" ++
      "Either `dns` or `ipAddress` must be set, but not both.")

def diun : Schema :=
  (object
    [("allowedKeyStorageTypes", list (choice (KeyStorageType.all.map KeyStorageType.name))),
      ("keyType", choice (KeyType.all.map KeyType.name))]
    ["allowedKeyStorageTypes", "keyType"]).described "Device Initialize over Untrusted Networks."

def protocols : Schema := object [("diun", diun.nullable), ("plainDI", switch)] []

def manufacturingSpec : Schema :=
  (object
    [("image", string.withDefault (.str ManufacturingSpec.defaultImage)),
      ("logLevel", (choice (LogLevel.all.map LogLevel.name)).nullable),
      ("protocols", protocols.withDefault ManufacturingSpec.defaultProtocols.toJson),
      ("rendezvousServers", list rendezvousServer),
      ("replicas", ((integer "int32" (some 0)).withDefault
        (.int ManufacturingSpec.defaultReplicas.toInt)).described "Desired number of replicas."),
      ("resources", resourceRequirements.nullable.described
        "Resources allocated for a manufacturing server pod."),
      ("routeHost", optionalString.described
        "Hostname of the route the server is exposed through."),
      ("storageClassName", optionalString.described
        "Storage class used for the ownership vouchers volume.")]
    ["rendezvousServers"]).described
    ("Describes a manufacturing server, which runs device initialization and produces ownership " ++
      "vouchers.")

/-! ## Onboarding servers -/

def address : Schema :=
  (object [("dnsName", optionalString), ("ipAddress", optionalString)] []).described
    "A host address, either a DNS name or an IP address."

def ownerAddress : Schema :=
  (object
    [("addresses", (list address).withDefault (.arr [])),
      ("port", port.withDefault (.int OwnerAddress.defaultPort.toNat)),
      ("transport", transport.withDefault (Transport.toJson .http))]
    []).described "An address and transport for contacting the owner-onboarding server."

def command : Schema :=
  object
    [("args", stringList), ("command", string), ("mayFail", switch), ("returnStdErr", switch),
      ("returnStdOut", switch)]
    ["command"]

def clevisBinding : Schema :=
  object [("config", string.withDefault (.str "")), ("pin", string.withDefault (.str ""))] []

def diskEncryption : Schema :=
  object [("binding", clevisBinding), ("diskLabel", string), ("reencrypt", switch)]
    ["binding", "diskLabel"]

def initialUser : Schema :=
  object [("sshKeys", stringList), ("username", string)] ["username"]

def serviceInfo : Schema :=
  (object
    [("commands", list command), ("diskEncryptionClevis", list diskEncryption),
      ("initialUser", initialUser.nullable)]
    []).described "A custom device onboarding sequence run through the service-info API."

def onboardingSpec : Schema :=
  (object
    [("ownerAddresses", (list ownerAddress).described
        ("Owner addresses reported to rendezvous servers. The route host is used when none are " ++
          "given.")),
      ("ownerOnboardingImage", string.withDefault (.str OnboardingSpec.defaultOnboardingImage)),
      ("serviceInfo", serviceInfo.nullable),
      ("serviceInfoImage", string.withDefault (.str OnboardingSpec.defaultServiceInfoImage))]
    []).described
    ("Describes an owner-onboarding server together with the service-info API server that " ++
      "drives the device onboarding sequence.")

/-! ## Rendezvous servers -/

def rendezvousSpec : Schema :=
  (object [("image", string.withDefault (.str RendezvousSpec.defaultImage))] []).described
    "Describes a rendezvous server, which brokers between devices and their owners."

/-! ## All servers -/

/-- The schema of the specification of a server. -/
def spec : Kind → Schema
  | .manufacturing => manufacturingSpec
  | .onboarding => onboardingSpec
  | .rendezvous => rendezvousSpec

def status : Schema :=
  (object
    [("conditions", list condition),
      ("pods", stringList.described
        ("Pods running the server. Written even when empty so a merge patch replaces the " ++
          "previous list."))]
    []).nullable.described "Observed state shared by all FDO server resources."

/-- The schema of the object of a server. -/
def server (kind : Kind) : Schema :=
  ((object [("spec", spec kind), ("status", status)] ["spec"]).titled kind.typeName).described
    ("Auto-generated derived type for " ++ kind.typeName ++ "Spec via `CustomResource`")

end DeviceOnboard.Schema

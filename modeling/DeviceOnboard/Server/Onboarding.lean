import DeviceOnboard.Server.Transport

/-!
# Descriptions of owner-onboarding servers

An owner-onboarding server takes over the devices of an owner. It runs together with a server for
service information, which drives what happens on a device when it is onboarded.
-/
namespace DeviceOnboard.Server

open DeviceOnboard.Json

/-- The address of a host, as a DNS name or as an IP address. -/
structure Address where
  dnsName : Option String
  ipAddress : Option String
  deriving DecidableEq, Repr

namespace Address

def record : Record Address :=
  Address.mk <$> .optional "dnsName" .string <*> .optional "ipAddress" .string

def decode : Decoder Address := record.decode "Address"

def toJson (a : Address) : Json :=
  .record [.opt "dnsName" a.dnsName .str, .opt "ipAddress" a.ipAddress .str]

end Address

/-- Addresses at which devices reach the server over one transport. -/
structure OwnerAddress where
  transport : Transport
  port : UInt16
  addresses : List Address
  deriving DecidableEq, Repr

namespace OwnerAddress

def defaultPort : UInt16 := 80

def record : Record OwnerAddress :=
  OwnerAddress.mk <$> .defaulted "transport" Transport.decode .http
    <*> .defaulted "port" .uint16 defaultPort
    <*> .defaulted "addresses" (.list Address.decode) []

def decode : Decoder OwnerAddress := record.decode "OwnerAddress"

def toJson (a : OwnerAddress) : Json :=
  .record
    [.one "addresses" (.arr (a.addresses.map Address.toJson)), .one "port" (.int a.port.toNat),
      .one "transport" a.transport.toJson]

end OwnerAddress

/-- A user that is created on the device. -/
structure InitialUser where
  username : String
  sshKeys : List String
  deriving DecidableEq, Repr

namespace InitialUser

def record : Record InitialUser :=
  InitialUser.mk <$> .required "username" .string <*> .defaulted "sshKeys" (.list .string) []

def decode : Decoder InitialUser := record.decode "InitialUser"

def toJson (u : InitialUser) : Json :=
  .record [.one "sshKeys" (.strings u.sshKeys), .one "username" (.str u.username)]

end InitialUser

/-- A command that is run on the device. -/
structure Command where
  command : String
  args : List String
  mayFail : Bool
  returnStdout : Bool
  returnStderr : Bool
  deriving DecidableEq, Repr

namespace Command

def record : Record Command :=
  Command.mk <$> .required "command" .string <*> .defaulted "args" (.list .string) []
    <*> .defaulted "mayFail" .boolean false <*> .defaulted "returnStdOut" .boolean false
    <*> .defaulted "returnStdErr" .boolean false

def decode : Decoder Command := record.decode "Command"

def toJson (c : Command) : Json :=
  .record
    [.one "args" (.strings c.args), .one "command" (.str c.command),
      .one "mayFail" (.bool c.mayFail), .one "returnStdErr" (.bool c.returnStderr),
      .one "returnStdOut" (.bool c.returnStdout)]

end Command

/-- What an encrypted disk is bound to. -/
structure ClevisBinding where
  pin : String
  config : String
  deriving DecidableEq, Repr

namespace ClevisBinding

def record : Record ClevisBinding :=
  ClevisBinding.mk <$> .defaulted "pin" .string "" <*> .defaulted "config" .string ""

def decode : Decoder ClevisBinding := record.decode "ClevisBinding"

def toJson (b : ClevisBinding) : Json :=
  .record [.one "config" (.str b.config), .one "pin" (.str b.pin)]

end ClevisBinding

/-- A disk of the device that is encrypted. -/
structure DiskEncryption where
  diskLabel : String
  binding : ClevisBinding
  reencrypt : Bool
  deriving DecidableEq, Repr

namespace DiskEncryption

def record : Record DiskEncryption :=
  DiskEncryption.mk <$> .required "diskLabel" .string
    <*> .required "binding" ClevisBinding.decode <*> .defaulted "reencrypt" .boolean false

def decode : Decoder DiskEncryption := record.decode "DiskEncryptionClevis"

def toJson (d : DiskEncryption) : Json :=
  .record
    [.one "binding" d.binding.toJson, .one "diskLabel" (.str d.diskLabel),
      .one "reencrypt" (.bool d.reencrypt)]

end DiskEncryption

/-- What is done on a device when it is onboarded. -/
structure ServiceInfo where
  initialUser : Option InitialUser
  commands : List Command
  diskEncryption : List DiskEncryption
  deriving DecidableEq, Repr

namespace ServiceInfo

/-- The disks may also be given under an older spelling of their field. -/
def record : Record ServiceInfo :=
  ServiceInfo.mk <$> .optional "initialUser" InitialUser.decode
    <*> .defaulted "commands" (.list Command.decode) []
    <*> .field "diskEncryptionClevis" ["diskencryptionClevis"] true (.list DiskEncryption.decode)
      (.ok [])

def decode : Decoder ServiceInfo := record.decode "ServiceInfo"

def toJson (s : ServiceInfo) : Json :=
  .record
    [.many "commands" s.commands Command.toJson,
      .many "diskEncryptionClevis" s.diskEncryption DiskEncryption.toJson,
      .opt "initialUser" s.initialUser InitialUser.toJson]

end ServiceInfo

structure OnboardingSpec where
  ownerOnboardingImage : String
  serviceInfoImage : String
  ownerAddresses : List OwnerAddress
  serviceInfo : Option ServiceInfo
  deriving DecidableEq, Repr

namespace OnboardingSpec

def defaultOnboardingImage : String := "quay.io/vemporop/fdo-owner-onboarding-server:1.0"

def defaultServiceInfoImage : String := "quay.io/vemporop/fdo-serviceinfo-api-server:1.0"

def record : Record OnboardingSpec :=
  OnboardingSpec.mk <$> .defaulted "ownerOnboardingImage" .string defaultOnboardingImage
    <*> .defaulted "serviceInfoImage" .string defaultServiceInfoImage
    <*> .defaulted "ownerAddresses" (.list OwnerAddress.decode) []
    <*> .optional "serviceInfo" ServiceInfo.decode

def decode : Decoder OnboardingSpec := record.decode "FdoOnboardingServerSpec"

def toJson (s : OnboardingSpec) : Json :=
  .record
    [.many "ownerAddresses" s.ownerAddresses OwnerAddress.toJson,
      .one "ownerOnboardingImage" (.str s.ownerOnboardingImage),
      .opt "serviceInfo" s.serviceInfo ServiceInfo.toJson,
      .one "serviceInfoImage" (.str s.serviceInfoImage)]

end OnboardingSpec

end DeviceOnboard.Server

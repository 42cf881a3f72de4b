import DeviceOnboard.Kubernetes.Resources
import DeviceOnboard.Server.Transport

/-!
# Descriptions of manufacturing servers

A manufacturing server initialises devices and produces their ownership vouchers.
-/
namespace DeviceOnboard.Server

open DeviceOnboard.Json DeviceOnboard.Kubernetes

/-- A rendezvous server that is written into the credentials of a device. -/
structure RendezvousServer where
  dns : Option String
  ipAddress : Option String
  devicePort : Option UInt16
  ownerPort : Option UInt16
  protocol : Option Transport
  deriving DecidableEq, Repr

namespace RendezvousServer

def record : Record RendezvousServer :=
  RendezvousServer.mk <$> .optional "dns" .string <*> .optional "ipAddress" .string
    <*> .optional "devicePort" .uint16 <*> .optional "ownerPort" .uint16
    <*> .optional "protocol" Transport.decode

def decode : Decoder RendezvousServer := record.decode "RendezvousServer"

def toJson (s : RendezvousServer) : Json :=
  .record
    [.opt "devicePort" s.devicePort fun n => .int n.toNat, .opt "dns" s.dns .str,
      .opt "ipAddress" s.ipAddress .str, .opt "ownerPort" s.ownerPort fun n => .int n.toNat,
      .opt "protocol" s.protocol Transport.toJson]

end RendezvousServer

inductive KeyType where
  | secp256r1 | secp384r1
  deriving DecidableEq, Repr

namespace KeyType

def all : List KeyType := [secp256r1, secp384r1]

def name : KeyType → String
  | secp256r1 => "SECP256R1"
  | secp384r1 => "SECP384R1"

def decode : Decoder KeyType := .variant (all.map fun k => (k.name, k))

end KeyType

inductive KeyStorageType where
  | fileSystem | tpm
  deriving DecidableEq, Repr

namespace KeyStorageType

def all : List KeyStorageType := [fileSystem, tpm]

def name : KeyStorageType → String
  | fileSystem => "FileSystem"
  | tpm => "Tpm"

def decode : Decoder KeyStorageType := .variant (all.map fun k => (k.name, k))

end KeyStorageType

/-- Device initialisation over untrusted networks. -/
structure Diun where
  keyType : KeyType
  allowedKeyStorageTypes : List KeyStorageType
  deriving DecidableEq, Repr

namespace Diun

def record : Record Diun :=
  Diun.mk <$> .required "keyType" KeyType.decode
    <*> .required "allowedKeyStorageTypes" (.list KeyStorageType.decode)

def decode : Decoder Diun := record.decode "Diun"

def toJson (d : Diun) : Json :=
  .record
    [.one "allowedKeyStorageTypes" (.arr (d.allowedKeyStorageTypes.map fun k => .str k.name)),
      .one "keyType" (.str d.keyType.name)]

end Diun

/-- The protocols for device initialisation. -/
structure Protocols where
  plainDi : Bool
  diun : Option Diun
  deriving DecidableEq, Repr, Inhabited

namespace Protocols

def record : Record Protocols :=
  Protocols.mk <$> .defaulted "plainDI" .boolean false <*> .optional "diun" Diun.decode

def decode : Decoder Protocols := record.decode "Protocols"

def toJson (p : Protocols) : Json :=
  .record [.opt "diun" p.diun Diun.toJson, .one "plainDI" (.bool p.plainDi)]

end Protocols

inductive LogLevel where
  | trace | debug | info | warn | error | off
  deriving DecidableEq, Repr

namespace LogLevel

def all : List LogLevel := [trace, debug, info, warn, error, off]

def name : LogLevel → String
  | trace => "TRACE"
  | debug => "DEBUG"
  | info => "INFO"
  | warn => "WARN"
  | error => "ERROR"
  | off => "OFF"

def decode : Decoder LogLevel := .variant (all.map fun l => (l.name, l))

end LogLevel

structure ManufacturingSpec where
  replicas : Int32
  image : String
  resources : Option ResourceRequirements
  storageClassName : Option String
  routeHost : Option String
  logLevel : Option LogLevel
  rendezvousServers : List RendezvousServer
  protocols : Protocols
  deriving DecidableEq, Repr

namespace ManufacturingSpec

def defaultReplicas : Int32 := 1

def defaultImage : String := "quay.io/vemporop/fdo-manufacturing-server:rhel9.3"

def defaultProtocols : Protocols := ⟨false, none⟩

def record : Record ManufacturingSpec :=
  ManufacturingSpec.mk <$> .defaulted "replicas" (Decoder.int32.map Int32.ofInt) defaultReplicas
    <*> .defaulted "image" .string defaultImage
    <*> .optional "resources" ResourceRequirements.decode
    <*> .optional "storageClassName" .string <*> .optional "routeHost" .string
    <*> .optional "logLevel" LogLevel.decode
    <*> .required "rendezvousServers" (.list RendezvousServer.decode)
    <*> .defaulted "protocols" Protocols.decode defaultProtocols

def decode : Decoder ManufacturingSpec := record.decode "FdoManufacturingServerSpec"

def toJson (s : ManufacturingSpec) : Json :=
  .record
    [.one "image" (.str s.image), .opt "logLevel" s.logLevel fun l => .str l.name,
      .one "protocols" s.protocols.toJson,
      .one "rendezvousServers" (.arr (s.rendezvousServers.map RendezvousServer.toJson)),
      .one "replicas" (.int s.replicas.toInt),
      .opt "resources" s.resources ResourceRequirements.toJson,
      .opt "routeHost" s.routeHost .str, .opt "storageClassName" s.storageClassName .str]

end ManufacturingSpec

end DeviceOnboard.Server

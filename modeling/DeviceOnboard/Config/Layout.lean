import DeviceOnboard.Server.Kind
import DeviceOnboard.Yaml.Document

/-!
# Where servers keep what they need

The ports that the servers listen on, the files that configure them, and the directories of keys,
vouchers and stores in their containers.
-/
namespace DeviceOnboard.Config

/-- Where a server listens, and where its configuration file lies. -/
structure Layout where
  port : UInt16
  fileName : String
  directory : String
  deriving DecidableEq, Repr

namespace Layout

/-- Servers listen on all interfaces. -/
def bind (l : Layout) : String := "0.0.0.0:" ++ toString l.port.toNat

def manufacturing : Layout :=
  ⟨8080, "manufacturing-server.yml", "/etc/fdo/manufacturing-server.conf.d"⟩

def onboarding : Layout :=
  ⟨8081, "owner-onboarding-server.yml", "/etc/fdo/owner-onboarding-server.conf.d"⟩

def rendezvous : Layout := ⟨8082, "rendezvous-server.yml", "/etc/fdo/rendezvous-server.conf.d"⟩

/-- The server for service information, which runs beside an onboarding server. -/
def serviceInfo : Layout :=
  ⟨8083, "serviceinfo-api-server.yml", "/etc/fdo/serviceinfo-api-server.conf.d"⟩

end Layout

/-- A key or certificate: the secret that holds it, and the name of its file. -/
structure KeyFile where
  secret : String
  file : String
  deriving DecidableEq, Repr

/-- The directory that keys and certificates are mounted into. -/
def keysDirectory : String := "/etc/fdo/keys"

def keyPath (file : String) : String := keysDirectory ++ "/" ++ file

def vouchersDirectory : String := "/etc/fdo/ownership_vouchers"

/-- The keys and certificates that a server of each kind reads. -/
def keyFiles : Server.Kind → List KeyFile
  | .manufacturing =>
    [⟨"fdo-diun-cert", "diun_cert.pem"⟩, ⟨"fdo-diun-key", "diun_key.der"⟩,
      ⟨"fdo-manufacturer-cert", "manufacturer_cert.pem"⟩,
      ⟨"fdo-manufacturer-key", "manufacturer_key.der"⟩, ⟨"fdo-owner-cert", "owner_cert.pem"⟩,
      ⟨"fdo-device-ca-key", "device_ca_key.der"⟩, ⟨"fdo-device-ca-cert", "device_ca_cert.pem"⟩]
  | .onboarding =>
    [⟨"fdo-owner-cert", "owner_cert.pem"⟩, ⟨"fdo-owner-key", "owner_key.der"⟩,
      ⟨"fdo-device-ca-cert", "device_ca_cert.pem"⟩]
  | .rendezvous => [⟨"fdo-manufacturer-cert", "manufacturer_cert.pem"⟩]

/-- The token that an onboarding server shows to the server for service information. -/
def serviceInfoToken : String := "ExampleAuthToken"

/-- A store that keeps its entries as files of a directory. -/
def directoryStore (path : String) : Yaml :=
  .variant "Directory" (.record [.one "path" (.str path)])

end DeviceOnboard.Config

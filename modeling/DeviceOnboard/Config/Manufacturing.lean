import DeviceOnboard.Address.Host
import DeviceOnboard.Config.Layout
import DeviceOnboard.Server.Manufacturing

/-!
# Configuration of a manufacturing server

What a manufacturing server reads from its configuration file. A configuration is built from a
description when every rendezvous server has exactly one address.
-/
namespace DeviceOnboard.Config

open DeviceOnboard.Server

/-- A rendezvous server as devices are told about it. -/
structure RendezvousEntry where
  host : HostAddress
  devicePort : Option UInt16
  ownerPort : Option UInt16
  protocol : Option Transport
  deriving DecidableEq, Repr

namespace RendezvousEntry

def ofServer (s : RendezvousServer) : Except Error RendezvousEntry :=
  (HostAddress.ofFields "rendezvous server" s.dns s.ipAddress).map fun host =>
    ⟨host, s.devicePort, s.ownerPort, s.protocol⟩

def toYaml (e : RendezvousEntry) : Yaml :=
  .record
    [.opt "dns" e.host.dnsName? .str, .opt "ipaddress" e.host.ip? fun ip => .str ip.text,
      .opt "device_port" e.devicePort fun n => .int n.toNat,
      .opt "owner_port" e.ownerPort fun n => .int n.toNat,
      .opt "protocol" e.protocol fun t => .str t.name]

end RendezvousEntry

structure ManufacturingConfig where
  rendezvousServers : List RendezvousEntry
  plainDi : Bool
  diun : Option Diun
  deriving DecidableEq, Repr

namespace ManufacturingConfig

/-- The key settings of a description; at least one type of storage has to be allowed. -/
def checkDiun : Option Diun → Except Error (Option Diun)
  | some d => if d.allowedKeyStorageTypes = [] then .error .noKeyStorageTypes else .ok (some d)
  | none => .ok none

/-- The rendezvous servers are checked in their order, and before the protocols. -/
def ofSpec (s : ManufacturingSpec) : Except Error ManufacturingConfig :=
  if s.rendezvousServers = [] then .error .noRendezvousServers
  else do
    let servers ← s.rendezvousServers.mapM RendezvousEntry.ofServer
    let diun ← checkDiun s.protocols.diun
    return ⟨servers, s.protocols.plainDi, diun⟩

def diunYaml (d : Diun) : Yaml :=
  .record
    [.one "key_path" (.str (keyPath "diun_key.der")),
      .one "cert_path" (.str (keyPath "diun_cert.pem")), .one "key_type" (.str d.keyType.name),
      .one "mfg_string_type" (.str "SerialNumber"),
      .one "allowed_key_storage_types"
        (.strings (d.allowedKeyStorageTypes.map KeyStorageType.name))]

def toYaml (c : ManufacturingConfig) : Yaml :=
  .record
    [.one "session_store_driver" (directoryStore "/etc/fdo/sessions/"),
      .one "ownership_voucher_store_driver" (directoryStore (vouchersDirectory ++ "/")),
      .one "public_key_store_driver" (directoryStore (keysDirectory ++ "/")),
      .one "bind" (.str Layout.manufacturing.bind),
      .one "rendezvous_info" (.seq (c.rendezvousServers.map RendezvousEntry.toYaml)),
      .one "protocols" (.record [.one "plain_di" (.bool c.plainDi), .opt "diun" c.diun diunYaml]),
      .one "manufacturing" (.record
        [.one "manufacturer_cert_path" (.str (keyPath "manufacturer_cert.pem")),
          .one "manufacturer_private_key" (.str (keyPath "manufacturer_key.der")),
          .one "owner_cert_path" (.str (keyPath "owner_cert.pem")),
          .one "device_cert_ca_private_key" (.str (keyPath "device_ca_key.der")),
          .one "device_cert_ca_chain" (.str (keyPath "device_ca_cert.pem"))])]

def text (c : ManufacturingConfig) : String := c.toYaml.text

end ManufacturingConfig

end DeviceOnboard.Config

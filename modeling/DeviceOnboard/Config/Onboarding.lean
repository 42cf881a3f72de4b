import DeviceOnboard.Address.Host
import DeviceOnboard.Config.Layout
import DeviceOnboard.Server.Onboarding

/-!
# Configuration of an owner-onboarding server

What an owner-onboarding server reads from its configuration file. Without owner addresses of its
own the server is reached under the host of its route, over plain HTTP.
-/
namespace DeviceOnboard.Config

open DeviceOnboard.Server

/-- The hosts at which devices reach an owner over one transport. -/
structure OwnerEntry where
  transport : Transport
  port : UInt16
  hosts : List HostAddress
  deriving DecidableEq, Repr

namespace OwnerEntry

def ofAddress (a : OwnerAddress) : Except Error OwnerEntry :=
  if a.addresses = [] then .error (.emptyOwnerAddress a.transport)
  else
    (a.addresses.mapM fun h => HostAddress.ofFields "owner address" h.dnsName h.ipAddress).map
      fun hosts => ⟨a.transport, a.port, hosts⟩

/-- The entry of a server that is reached under the host of its route. -/
def ofRoute (host : String) : OwnerEntry := ⟨.http, OwnerAddress.defaultPort, [.dns host]⟩

def hostYaml (h : HostAddress) : Yaml :=
  .record [.opt "dns_name" h.dnsName? .str, .opt "ip_address" h.ip? fun ip => .str ip.text]

def toYaml (e : OwnerEntry) : Yaml :=
  .record
    [.one "transport" (.str e.transport.name), .one "port" (.int e.port.toNat),
      .one "addresses" (.seq (e.hosts.map hostYaml))]

end OwnerEntry

/-- The owner addresses of a description, checked in their order. -/
def ownerEntries (addresses : List OwnerAddress) : Except Error (List OwnerEntry) :=
  addresses.mapM OwnerEntry.ofAddress

structure OnboardingConfig where
  ownerEntries : List OwnerEntry
  deriving DecidableEq, Repr

namespace OnboardingConfig

/-- The host of the route counts only without owner addresses. -/
def ofSpec (s : OnboardingSpec) (routeHost : Option String) : Except Error OnboardingConfig :=
  if s.ownerAddresses = [] then
    match routeHost.filter (· ≠ "") with
    | some host => .ok ⟨[.ofRoute host]⟩
    | none => .error .noOwnerAddresses
  else (Config.ownerEntries s.ownerAddresses).map OnboardingConfig.mk

def serviceInfoUrl : String :=
  "http://127.0.0.1:" ++ toString Layout.serviceInfo.port.toNat ++ "/device_info"

def toYaml (c : OnboardingConfig) : Yaml :=
  .record
    [.one "session_store_driver" (directoryStore "/etc/fdo/sessions/"),
      .one "ownership_voucher_store_driver" (directoryStore (vouchersDirectory ++ "/")),
      .one "bind" (.str Layout.onboarding.bind),
      .one "trusted_device_keys_path" (.str (keyPath "device_ca_cert.pem")),
      .one "owner_private_key_path" (.str (keyPath "owner_key.der")),
      .one "owner_public_key_path" (.str (keyPath "owner_cert.pem")),
      .one "owner_addresses" (.seq (c.ownerEntries.map OwnerEntry.toYaml)),
      .one "report_to_rendezvous_endpoint_enabled" (.bool true),
      .one "service_info_api_url" (.str serviceInfoUrl),
      .one "service_info_api_authentication"
        (.variant "BearerToken" (.record [.one "token" (.str serviceInfoToken)]))]

def text (c : OnboardingConfig) : String := c.toYaml.text

end OnboardingConfig

end DeviceOnboard.Config

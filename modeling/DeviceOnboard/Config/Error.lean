import DeviceOnboard.Server.Transport
import DeviceOnboard.Text.Quoted

/-!
# Why a description has no configuration

The causes for which a server's description or a file for devices is refused, and their wording.
-/
namespace DeviceOnboard.Config

inductive Error where
  | bothAddresses (target : String)
  | missingAddress (target : String)
  | invalidIpAddress (target address : String)
  | noRendezvousServers
  | noOwnerAddresses
  | emptyOwnerAddress (transport : Server.Transport)
  | noKeyStorageTypes
  | incompleteFile (configMap : String)
  | missingFileData (configMap file : String)
  /-- A document cannot be written. The configurations of this library never meet this: they are
  made of strings, numbers, lists and mappings, all of which `Yaml.text` writes. -/
  | encoding (reason : String)
  deriving DecidableEq, Repr

def Error.message : Error → String
  | bothAddresses target => "cannot use both DNS and IP address for " ++ target
  | missingAddress target => "either a DNS or IP address is required for " ++ target
  | invalidIpAddress target address =>
    "invalid IP address " ++ Text.quoted address ++ " for " ++ target
  | noRendezvousServers => "rendezvous servers must contain at least one value"
  | noOwnerAddresses => "owner addresses must contain at least one value"
  | emptyOwnerAddress transport =>
    "owner address for transport " ++ transport.name ++ " must contain at least one address"
  | noKeyStorageTypes => "DIUN requires at least one allowed key storage type"
  | incompleteFile configMap =>
    "serviceinfo file name and destination path are required: " ++ configMap
  | missingFileData configMap file =>
    "configmap '" ++ configMap ++ "' does not contain file '" ++ file ++ "'"
  | encoding reason => "failed to encode configuration: " ++ reason

/-- Whether the error is about a file for devices, and not about the server. -/
def Error.concernsFile : Error → Bool
  | incompleteFile _ | missingFileData .. => true
  | _ => false

end DeviceOnboard.Config

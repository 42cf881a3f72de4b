import DeviceOnboard.Config.Layout

/-!
# Configuration of a rendezvous server

The configuration file of a rendezvous server is the same for all servers.
-/
namespace DeviceOnboard.Config.Rendezvous

def toYaml : Yaml :=
  .record
    [.one "storage_driver" (directoryStore "/etc/fdo/rendezvous_registered"),
      .one "session_store_driver" (directoryStore "/etc/fdo/rendezvous_sessions"),
      .one "trusted_manufacturer_keys_path" (.str (keyPath "manufacturer_cert.pem")),
      .one "bind" (.str Layout.rendezvous.bind)]

def text : String := toYaml.text

end DeviceOnboard.Config.Rendezvous

import DeviceOnboard.Config.DeviceFile
import DeviceOnboard.Config.Layout
import DeviceOnboard.Server.Onboarding

/-!
# Configuration of a server for service information

What is done on a device when it is onboarded, as the server for service information reads it.
-/
namespace DeviceOnboard.Config

open DeviceOnboard.Server

structure ServiceInfoConfig where
  initialUser : Option InitialUser
  files : List DeviceFile
  commands : List Command
  diskEncryption : List DiskEncryption
  deriving DecidableEq, Repr

namespace ServiceInfoConfig

def ofSpec (serviceInfo : Option ServiceInfo) (files : List DeviceFile) : ServiceInfoConfig :=
  match serviceInfo with
  | some s => ⟨s.initialUser, files, s.commands, s.diskEncryption⟩
  | none => ⟨none, files, [], []⟩

def userYaml (u : InitialUser) : Yaml :=
  .record [.one "username" (.str u.username), .one "sshkeys" (.strings u.sshKeys)]

def fileYaml (f : DeviceFile) : Yaml :=
  .record
    [.one "path" (.str f.path), .opt "permissions" f.permissions .str,
      .one "source_path" (.str f.sourcePath)]

def commandYaml (c : Command) : Yaml :=
  .record
    [.one "command" (.str c.command), .one "args" (.strings c.args),
      .one "may_fail" (.bool c.mayFail), .one "return_stdout" (.bool c.returnStdout),
      .one "return_stderr" (.bool c.returnStderr)]

def diskYaml (d : DiskEncryption) : Yaml :=
  .record
    [.one "disk_label" (.str d.diskLabel),
      .one "binding"
        (.record [.one "pin" (.str d.binding.pin), .one "config" (.str d.binding.config)]),
      .one "reencrypt" (.bool d.reencrypt)]

def toYaml (c : ServiceInfoConfig) : Yaml :=
  .record
    [.one "bind" (.str Layout.serviceInfo.bind),
      .one "device_specific_store_driver" (directoryStore "/etc/fdo/device_specific_serviceinfo"),
      .one "service_info_auth_token" (.str serviceInfoToken),
      .one "service_info" (.record
        [.opt "initial_user" c.initialUser userYaml, .many "files" c.files fileYaml,
          .many "commands" c.commands commandYaml,
          .many "diskencryption_clevis" c.diskEncryption diskYaml])]

def text (c : ServiceInfoConfig) : String := c.toYaml.text

end ServiceInfoConfig

end DeviceOnboard.Config

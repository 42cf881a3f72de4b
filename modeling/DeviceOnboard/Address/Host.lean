import DeviceOnboard.Address.Ip
import DeviceOnboard.Config.Error
import DeviceOnboard.Text.Blank

/-!
# Host addresses

A host is given by a DNS name or by an IP address, each in a field of its own; exactly one of the
two fields has to be set.
-/
namespace DeviceOnboard

inductive HostAddress where
  | dns (name : String)
  | ip (address : Ip)
  deriving DecidableEq, Repr

namespace HostAddress

/-- The address that two fields give. The target names what is addressed in an error. -/
def ofFields (target : String) (dns ip : Option String) : Except Config.Error HostAddress :=
  match Text.field? dns, Text.field? ip with
  | some _, some _ => .error (.bothAddresses target)
  | none, none => .error (.missingAddress target)
  | some name, none => .ok (.dns name)
  | none, some address =>
    match Ip.ofText? address with
    | some ip => .ok (.ip ip)
    | none => .error (.invalidIpAddress target address)

def dnsName? : HostAddress → Option String
  | dns name => some name
  | ip _ => none

def ip? : HostAddress → Option Ip
  | dns _ => none
  | ip address => some address

end HostAddress

end DeviceOnboard

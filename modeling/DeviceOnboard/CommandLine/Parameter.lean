import DeviceOnboard.Address.Socket
import DeviceOnboard.CommandLine.LogFilter

/-!
# Parameters of the command line

What can be set on the command line, under which name, by which variable of the environment, and
which values are allowed.
-/
namespace DeviceOnboard.CommandLine

/-- Why a command line is refused. -/
inductive Error where
  | unknownArgument
  /-- A parameter stands without its value. -/
  | missingValue
  /-- A value stands with a switch. -/
  | unexpectedValue
  | invalidValue
  /-- A parameter is given twice. -/
  | repeated
  deriving DecidableEq, Repr

inductive LogFormat where
  | plain | json
  deriving DecidableEq, Repr

def LogFormat.ofText? : String → Option LogFormat
  | "plain" => some plain
  | "json" => some json
  | _ => none

/-- The values of a parameter. -/
inductive ValueKind where
  | text
  /-- The path of a file, which is not empty. -/
  | path
  | logFilter
  | logFormat
  | socketAddress
  deriving DecidableEq, Repr

/-- Whether a value is allowed. An empty path counts as none. -/
def ValueKind.check (kind : ValueKind) (value : String) : Except Error Unit :=
  match kind with
  | text => .ok ()
  | path => if value = "" then .error .missingValue else .ok ()
  | logFilter => if (LogFilter.ofText? value).isSome then .ok () else .error .invalidValue
  | logFormat => if (LogFormat.ofText? value).isSome then .ok () else .error .invalidValue
  | socketAddress => if (SocketAddress.ofText? value).isSome then .ok () else .error .invalidValue

inductive Parameter where
  | logLevel | logFormat
  | cluster | kubeconfig | context | impersonatedUser | impersonatedGroup
  | serverAddress | serverKey | serverCertificates | adminAddress
  | admissionControllerDisabled | watchNamespace
  deriving DecidableEq, Repr

namespace Parameter

def all : List Parameter :=
  [logLevel, logFormat, cluster, kubeconfig, context, impersonatedUser, impersonatedGroup,
    serverAddress, serverKey, serverCertificates, adminAddress, admissionControllerDisabled,
    watchNamespace]

def name : Parameter → String
  | logLevel => "log-level"
  | logFormat => "log-format"
  | cluster => "cluster"
  | kubeconfig => "kubeconfig"
  | context => "context"
  | impersonatedUser => "as"
  | impersonatedGroup => "as-group"
  | serverAddress => "server-addr"
  | serverKey => "server-tls-key"
  | serverCertificates => "server-tls-certs"
  | adminAddress => "admin-addr"
  | admissionControllerDisabled => "admission-controller-disabled"
  | watchNamespace => "watch-namespace"

/-- The values of a parameter; a switch has none. -/
def valueKind? : Parameter → Option ValueKind
  | logLevel => some .logFilter
  | logFormat => some .logFormat
  | kubeconfig => some .path
  | serverAddress | adminAddress => some .socketAddress
  | admissionControllerDisabled => none
  | cluster | context | impersonatedUser | impersonatedGroup | serverKey | serverCertificates
  | watchNamespace => some .text

/-- The variable of the environment that stands in for a parameter. -/
def environmentName? : Parameter → Option String
  | logLevel => some "FDO_CONTROLLER_LOG"
  | watchNamespace => some "WATCH_NAMESPACE"
  | _ => none

def ofName? (name : String) : Option Parameter := all.find? fun p => p.name == name

end Parameter

end DeviceOnboard.CommandLine

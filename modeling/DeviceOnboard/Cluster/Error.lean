import DeviceOnboard.Json.DecodeError

/-!
# Failures of the cluster

Why a call to the Kubernetes API fails, and the wording of each failure.
-/
namespace DeviceOnboard.Cluster

/-- An answer of the API that reports an error. -/
structure ApiError where
  status : String := "Failure"
  message : String := ""
  reason : String := ""
  code : UInt16
  deriving DecidableEq, Repr

inductive Error where
  | api (e : ApiError)
  /-- An answer that is not of the type that was asked for. -/
  | undecodable (e : Json.DecodeError)
  /-- A request for an object with an empty name. -/
  | unnamed
  /-- A request for an object whose name cannot stand in a path. -/
  | unaddressable
  deriving DecidableEq, Repr

def ApiError.text (e : ApiError) : String :=
  "ErrorResponse \x7b status: " ++ Text.quoted e.status ++ ", message: " ++ Text.quoted e.message
    ++ ", reason: " ++ Text.quoted e.reason ++ ", code: " ++ toString e.code.toNat ++ " \x7d"

def Error.message : Error → String
  | api e => "ApiError: " ++ e.message ++ ": " ++ e.reason ++ " (" ++ e.text ++ ")"
  | undecodable e => "Error deserializing response: " ++ e.message
  | unnamed =>
    "Failed to build request: failed to validate request: A non-empty name is required"
  | unaddressable => "Failed to build request: failed to build request: invalid uri character"

end DeviceOnboard.Cluster

import DeviceOnboard.Admission.Review
import DeviceOnboard.Config.Manufacturing
import DeviceOnboard.Config.Onboarding
import DeviceOnboard.Server.Object

/-!
# Which servers are admitted

A server is admitted when its specification can be read, and when a configuration can be made of
it as far as that is known before the server exists: the host of a route is not.
-/
namespace DeviceOnboard.Admission

open DeviceOnboard.Config DeviceOnboard.Json DeviceOnboard.Server

/-- Why a server is not admitted. -/
inductive Denial where
  | missingObject
  | missingSpec
  | undecodable (e : DecodeError)
  | negativeReplicas
  | config (e : Config.Error)
  | emptyImage
  deriving DecidableEq, Repr

def Denial.message : Denial → String
  | missingObject => "admission request missing 'object"
  | missingSpec => "admission request missing 'spec'"
  | undecodable e => e.message
  | negativeReplicas => "replicas must not be negative"
  | config e => e.message
  | emptyImage => "image must not be empty"

/-- Checks a specification. -/
def validate : Spec → Except Denial Unit
  | .manufacturing s =>
    if s.replicas < 0 then .error .negativeReplicas
    else
      match ManufacturingConfig.ofSpec s with
      | .ok _ => .ok ()
      | .error e => .error (.config e)
  | .onboarding s =>
    match ownerEntries s.ownerAddresses with
    | .ok _ => .ok ()
    | .error e => .error (.config e)
  | .rendezvous s => if Text.trim s.image = "" then .error .emptyImage else .ok ()

/-- The specification in an object of a kind. -/
def specOf (kind : Kind) (object : Option Members) : Except Denial Spec :=
  match object with
  | none => .error .missingObject
  | some ms =>
    match findValue? "spec" ms with
    | none => .error .missingSpec
    | some j => (Json.decode (Spec.decode kind) j).mapError .undecodable

/-- Checks an object of a kind. -/
def judge (kind : Kind) (object : Option Members) : Except Denial Unit :=
  match specOf kind object with
  | .error e => .error e
  | .ok s => validate s

end DeviceOnboard.Admission

import DeviceOnboard.Kubernetes.Condition

/-!
# The observed state of a server

The pods that run a server, and the conditions that tell how its reconciles went. `Status.next`
computes the status after a reconcile. Conditions of other types are carried over, and the time of
a condition moves only when its status changes.
-/
namespace DeviceOnboard.Server

open DeviceOnboard.Json DeviceOnboard.Kubernetes

structure Status where
  pods : List String
  conditions : List Condition
  deriving DecidableEq, Repr, Inhabited

namespace Status

def record : Record Status :=
  Status.mk <$> .defaulted "pods" (.list .string) []
    <*> .defaulted "conditions" (.list Condition.decode) []

def decode : Decoder Status := record.decode "ServerStatus"

/-- The pods are written even when there are none, so that a merge patch replaces old ones. -/
def toJson (s : Status) : Json :=
  .record [.many "conditions" s.conditions Condition.toJson, .one "pods" (.strings s.pods)]

/-- The first condition of a type. -/
def condition? (s : Status) (type : String) : Option Condition :=
  s.conditions.find? fun c => c.type == type

def successType : String := "ReconcileSuccess"

def errorType : String := "ReconcileError"

/-- Replaces the first condition of the same type, whose time is kept if the status is the same,
or adds the condition at the end. -/
def setCondition (c : Condition) : List Condition → List Condition
  | [] => [c]
  | d :: rest =>
    if d.type = c.type then
      (if d.status = c.status then { c with lastTransitionTime := d.lastTransitionTime } else c)
        :: rest
    else d :: setCondition c rest

/-- The status of a condition that holds or does not hold. -/
def truth (b : Bool) : String := if b then "True" else "False"

/-- A condition that tells the outcome of a reconcile. -/
def outcome (type : String) (holds : Bool) (generation : Option Int64) (error : Option String)
    (now : Time) : Condition where
  type := type
  status := truth holds
  reason := if error.isSome then "Failed" else "Succeeded"
  message := error.getD ""
  observedGeneration := generation
  lastTransitionTime := now

/-- The status after a reconcile that ended with or without an error. -/
def next (current : Option Status) (pods : List String) (generation : Option Int64)
    (error : Option String) (now : Time) : Status where
  pods := pods
  conditions :=
    setCondition (outcome errorType error.isSome generation error now)
      (setCondition (outcome successType error.isNone generation error now)
        ((current.map Status.conditions).getD []))

end Status

end DeviceOnboard.Server

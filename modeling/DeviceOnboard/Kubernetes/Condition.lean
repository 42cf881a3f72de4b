import DeviceOnboard.Json.Shape

/-!
# Conditions of an object

One aspect of the observed state of an object, with the time at which its status last changed.
-/
namespace DeviceOnboard.Kubernetes

open DeviceOnboard.Json

structure Condition where
  type : String
  status : String
  reason : String
  message : String
  observedGeneration : Option Int64
  lastTransitionTime : Time
  deriving DecidableEq, Repr

namespace Condition

def record : Record Condition :=
  Condition.mk <$> .orEmpty "type" .string "" <*> .orEmpty "status" .string ""
    <*> .orEmpty "reason" .string "" <*> .orEmpty "message" .string ""
    <*> .optional "observedGeneration" (Decoder.int64.map Int64.ofInt)
    <*> .required "lastTransitionTime" .time

def decode : Decoder Condition := record.decodeKubernetes "Condition"

/-- Times are written with whole seconds. -/
def toJson (c : Condition) : Json :=
  .record
    [.one "lastTransitionTime" (.str c.lastTransitionTime.text), .one "message" (.str c.message),
      .opt "observedGeneration" c.observedGeneration fun n => .int n.toInt,
      .one "reason" (.str c.reason), .one "status" (.str c.status), .one "type" (.str c.type)]

end Condition

end DeviceOnboard.Kubernetes

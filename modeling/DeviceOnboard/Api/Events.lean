import DeviceOnboard.Api.Client

/-!
# Events

Warnings are published as events. A warning about an object that was warned about before is not a
new event: the first event is sent again with the number of times it was observed.
-/
namespace DeviceOnboard.Api

open DeviceOnboard.Cluster DeviceOnboard.Json DeviceOnboard.Kubernetes

/-- How often an event was observed, when more than once, and when it was observed last. -/
structure EventSeries where
  count : Nat
  lastObserved : Time
  deriving DecidableEq, Repr

/-- A warning about an object. -/
structure WarningEvent where
  name : String
  regarding : ObjectReference
  note : String
  time : Time
  series : Option EventSeries
  reportingInstance : String
  deriving DecidableEq, Repr

namespace WarningEvent

def seriesJson (s : EventSeries) : Json :=
  .record
    [.one "count" (.int s.count), .one "lastObservedTime" (.str (Shape.preciseText s.lastObserved))]

def manifest (e : WarningEvent) : Manifest where
  resource := .events
  metadata := { name := some e.name, «namespace» := e.regarding.namespace }
  content := Members.join
    [.one "action" (.str "Reconcile"), .one "eventTime" (.str (Shape.preciseText e.time)),
      .one "note" (.str e.note), .one "reason" (.str "ProcessingError"),
      .one "regarding" e.regarding.toJson, .one "reportingController" (.str manager),
      .one "reportingInstance" (.str e.reportingInstance), .opt "series" e.series seriesJson,
      .one "type" (.str "Warning")]

/-- The event with one more observation. -/
def again (e : WarningEvent) (now : Time) : WarningEvent :=
  { e with series := some ⟨((e.series.map (·.count)).getD 1) + 1, now⟩ }

end WarningEvent

/-- The number of billionths of a second since 1970, in hexadecimal digits. -/
def stamp (now : Time) : String :=
  String.ofList (Nat.toDigits 16 (now.seconds.toNat * 1000000000 + now.nanos))

/-- The events that were published, by the objects they are about. -/
structure Recorder where
  /-- The name of the host that events are reported from. -/
  host : Option String
  published : List (ObjectReference × WarningEvent) := []

namespace Recorder

/-- A first event about an object. -/
def first (r : Recorder) (reference : ObjectReference) (note : String) (now : Time) :
    WarningEvent where
  name := reference.name.getD manager ++ "." ++ stamp now
  regarding := reference
  note := note
  time := now
  series := none
  reportingInstance := r.host.getD manager

/-- The event for a warning: the one that was published before, or a new one. -/
def event (r : Recorder) (reference : ObjectReference) (note : String) (now : Time) :
    WarningEvent :=
  match r.published.lookup reference with
  | some e => e.again now
  | none => r.first reference note now

/-- Remembers an event that was published. -/
def remember (r : Recorder) (e : WarningEvent) : Recorder :=
  { r with published := (e.regarding, e) :: r.published.filter fun p => p.1 != e.regarding }

def decodeEvent : Decoder Manifest := Manifest.decode .events Shapes.eventRest

/-- Sends an event: a new one is created, and one that was sent before is patched. -/
def transmit (e : WarningEvent) : Exchange (Except Error Manifest) :=
  let ns := e.regarding.namespace.getD "default"
  if e.series.isSome then mergePatch .events ns e.name "" e.manifest.toJson decodeEvent
  else create ns e.manifest decodeEvent

/-- Publishes a warning. Only an event that was taken is remembered. -/
def publish (r : Recorder) (reference : ObjectReference) (note : String) (now : Time) :
    Exchange Recorder :=
  let e := r.event reference note now
  (transmit e).bind fun
    | .ok _ => .done (r.remember e)
    | .error _ => .done r

end Recorder

end DeviceOnboard.Api

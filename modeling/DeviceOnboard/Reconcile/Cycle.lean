import DeviceOnboard.Metrics
import DeviceOnboard.Reconcile.Manufacturing
import DeviceOnboard.Reconcile.Onboarding
import DeviceOnboard.Reconcile.Rendezvous

/-!
# A reconcile

One cycle brings a server up to date, counts the outcome, publishes a warning when it failed, and
stores the new status. What happens to the warning and to the status does not change the outcome.
-/
namespace DeviceOnboard.Reconcile

open DeviceOnboard.Cluster DeviceOnboard.Server

/-- Applies the objects of a server. -/
def apply (o : Owner) (routes : Bool) : Spec → Task Action
  | .manufacturing s => Manufacturing.apply o routes s
  | .onboarding s => Onboarding.apply o routes s
  | .rendezvous s => Rendezvous.apply o routes s

/-- The pods of a server; those of its status stand in when they cannot be listed. -/
def currentPods (o : Owner) (status : Option Status) : Cluster.Dialogue (List String) :=
  .ask (.listPodNames o.namespace (o.kind.selector o.name)) fun
    | .ok pods => .done pods
    | .error _ => .done ((status.map Status.pods).getD [])

/-- Stores the status after a reconcile, unless it is the one that is there. -/
def updateStatus (server : ServerObject) (o : Owner) (now : Time) (error : Option Error) :
    Cluster.Dialogue Unit := do
  let pods ← currentPods o server.status
  let status := Status.next server.status pods server.metadata.generation
    (error.map Error.message) now
  if server.status = some status then .done ()
  else .ask (.patchStatus o.kind o.namespace o.name status) fun _ => .done ()

/-- The error of a result. -/
def error? {α : Type} : Except Error α → Option Error
  | .ok _ => none
  | .error e => some e

/-- Publishes a warning when a reconcile failed. -/
def warn (server : ServerObject) : Option Error → Cluster.Dialogue Unit
  | some e => .ask (.publishWarning server.reference e.message) .done
  | none => .done ()

/-- The counters after a reconcile. -/
def counted (m : Metrics) (kind : Kind) (error : Option Error) : Metrics :=
  if error.isSome then (m.reconciled kind).failed kind else m.reconciled kind

/-- One cycle for a server: its outcome and the counters after it. -/
def reconcile (server : ServerObject) (routes : Bool) (now : Time) (m : Metrics) :
    Cluster.Dialogue (Except Error Action × Metrics) :=
  match server.metadata.namespace with
  | none => .done (.error (.missingKey "namespace"), m)
  | some ns => do
    let o : Owner :=
      ⟨server.metadata.nameOrStem, ns, server.kind, Owner.referenceOf server.kind server.metadata⟩
    let result ← (apply o routes server.spec).run
    warn server (error? result)
    updateStatus server o now (error? result)
    return (result, counted m server.kind (error? result))

/-- The seconds until the next cycle, if no change comes before. -/
def requeueAfter : Except Error Action → Option Nat
  | .ok .awaitChange => none
  | .ok (.requeue seconds) => some seconds
  | .error e => some e.requeueAfter

end DeviceOnboard.Reconcile

import DeviceOnboard.Proofs.TaskRuns
import DeviceOnboard.Reconcile.Cycle

/-!
# Runs of a cycle

A cycle of a server in a namespace applies its objects, publishes a warning if that failed, lists
the pods, and stores the status unless it is the one that is there.
-/
namespace DeviceOnboard.Reconcile

open DeviceOnboard.Cluster DeviceOnboard.Dialogue DeviceOnboard.Reconcile.Task DeviceOnboard.Server

/-- The server as the owner of the objects that its cycle applies. -/
def ownerOf (server : ServerObject) (ns : String) : Owner :=
  ⟨server.metadata.nameOrStem, ns, server.kind, Owner.referenceOf server.kind server.metadata⟩

/-- The pods that a status counts. -/
def podsOr (status : Option Status) : Except Cluster.Error (List String) → List String
  | .ok pods => pods
  | .error _ => (status.map Status.pods).getD []

/-- The status that a cycle ends with. -/
def statusAfter (server : ServerObject) (now : Time) (result : Except Error Action)
    (pods : Except Cluster.Error (List String)) : Status :=
  .next server.status (podsOr server.status pods) server.metadata.generation
    ((error? result).map Error.message) now

/-- The warning that a cycle publishes. -/
def warnings (server : ServerObject) : Except Error Action → Log
  | .ok _ => []
  | .error e => [⟨.publishWarning server.reference e.message, ()⟩]

/-- The call that lists the pods of a server. -/
def podsCall (o : Owner) : Call := .listPodNames o.namespace (o.kind.selector o.name)

/-- The patches by which a cycle stores a status. -/
inductive Stores (server : ServerObject) (o : Owner) (status : Status) : Log → Prop where
  | unchanged (same : server.status = some status) : Stores server o status []
  | patched (changed : server.status ≠ some status) (answer : Except Cluster.Error Unit) :
      Stores server o status [⟨.patchStatus o.kind o.namespace o.name status, answer⟩]

theorem run_warn_iff {server : ServerObject} {result : Except Error Action} {log : Log} {u : Unit} :
    Run (warn server (error? result)) log u ↔ log = warnings server result := by
  cases result with
  | ok a =>
    rw [show warn server (error? (.ok a)) = .done () from rfl, run_done_iff]
    simp [warnings]
  | error e => exact run_question_iff

/-- Pods are listed by one call, whose answer is all that matters of them. -/
theorem run_currentPods_iff {o : Owner} {status : Option Status} {log : Log} {pods : List String} :
    Run (currentPods o status) log pods ↔
      ∃ answer, log = [⟨podsCall o, answer⟩] ∧ pods = podsOr status answer := by
  unfold currentPods
  rw [run_ask_iff]
  constructor
  · rintro ⟨e | listed, rest, rfl, h⟩ <;>
    · obtain ⟨rfl, rfl⟩ := run_done_iff.mp h
      exact ⟨_, rfl, rfl⟩
  · rintro ⟨e | listed, rfl, rfl⟩ <;> exact ⟨_, [], rfl, .done _⟩

theorem run_stores_iff {server : ServerObject} {o : Owner} {status : Status} {log : Log}
    {u : Unit} :
    Run (if server.status = some status then .done ()
      else .ask (.patchStatus o.kind o.namespace o.name status) fun _ => .done ()) log u ↔
      Stores server o status log := by
  constructor
  · intro h
    split at h
    · rename_i same
      obtain ⟨rfl, _⟩ := run_done_iff.mp h
      exact .unchanged same
    · rename_i changed
      obtain ⟨answer, _, rfl, ends⟩ := run_ask_iff.mp h
      obtain ⟨rfl, _⟩ := run_done_iff.mp ends
      exact .patched changed answer
  · intro h
    cases h with
    | unchanged same =>
      rw [if_pos same]
      exact .done _
    | patched changed answer =>
      rw [if_neg changed]
      exact run_ask_iff.mpr ⟨answer, [], rfl, .done _⟩

theorem run_updateStatus_iff {server : ServerObject} {o : Owner} {now : Time}
    {result : Except Error Action} {log : Log} {u : Unit} :
    Run (updateStatus server o now (error? result)) log u ↔
      ∃ pods stored, log = ⟨podsCall o, pods⟩ :: stored ∧
        Stores server o (statusAfter server now result pods) stored := by
  unfold updateStatus
  show Run (Dialogue.bind _ _) log u ↔ _
  rw [run_bind_iff]
  constructor
  · rintro ⟨_, before, after, h1, h2, rfl⟩
    obtain ⟨pods, rfl, rfl⟩ := run_currentPods_iff.mp h1
    exact ⟨pods, after, rfl, run_stores_iff.mp h2⟩
  · rintro ⟨pods, stored, rfl, h⟩
    exact ⟨_, [_], stored, run_currentPods_iff.mpr ⟨pods, rfl, rfl⟩, run_stores_iff.mpr h, rfl⟩

/-- A cycle applies the objects, then warns of a failure, and then stores the status. -/
theorem run_reconcile_iff {server : ServerObject} {ns : String} {routes : Bool} {now : Time}
    {m : Metrics} {log : Log} {outcome : Except Error Action × Metrics}
    (placed : server.metadata.namespace = some ns) :
    Run (reconcile server routes now m) log outcome ↔
      ∃ result applied pods stored,
        Runs (apply (ownerOf server ns) routes server.spec) applied result ∧
        Stores server (ownerOf server ns) (statusAfter server now result pods) stored ∧
        log = applied ++ warnings server result ++ ⟨podsCall (ownerOf server ns), pods⟩ :: stored ∧
        outcome = (result, counted m server.kind (error? result)) := by
  have steps : reconcile server routes now m =
      (apply (ownerOf server ns) routes server.spec).run.bind fun result =>
        (warn server (error? result)).bind fun _ =>
          (updateStatus server (ownerOf server ns) now (error? result)).bind fun _ =>
            .done (result, counted m server.kind (error? result)) := by
    unfold reconcile
    rw [placed]
    rfl
  rw [steps, run_bind_iff]
  constructor
  · rintro ⟨result, applied, _, h, h1, rfl⟩
    obtain ⟨_, _, _, warned, h2, rfl⟩ := run_bind_iff.mp h1
    obtain ⟨_, _, _, updated, h3, rfl⟩ := run_bind_iff.mp h2
    obtain ⟨rfl, rfl⟩ := run_done_iff.mp h3
    obtain ⟨pods, stored, rfl, stores⟩ := run_updateStatus_iff.mp updated
    rw [run_warn_iff.mp warned]
    exact ⟨result, applied, pods, stored, h, stores, by simp, rfl⟩
  · rintro ⟨result, applied, pods, stored, h, stores, rfl, rfl⟩
    have updated : Run (updateStatus server (ownerOf server ns) now (error? result))
        (⟨podsCall (ownerOf server ns), pods⟩ :: stored) () :=
      run_updateStatus_iff.mpr ⟨pods, stored, rfl, stores⟩
    refine ⟨result, applied, _, h, ?_, List.append_assoc _ _ _⟩
    refine run_bind_iff.mpr ⟨(), _, _, run_warn_iff.mpr rfl, ?_, rfl⟩
    exact run_bind_iff.mpr ⟨(), _, [], updated, .done _, by simp⟩

/-- A server without a namespace is left alone. -/
theorem run_reconcile_unplaced_iff {server : ServerObject} {routes : Bool} {now : Time}
    {m : Metrics} {log : Log} {outcome : Except Error Action × Metrics}
    (unplaced : server.metadata.namespace = none) :
    Run (reconcile server routes now m) log outcome ↔
      log = [] ∧ outcome = (.error (.missingKey "namespace"), m) := by
  unfold reconcile
  rw [unplaced]
  exact run_done_iff

/-! ## A cluster that accepts everything -/

/-- The answers of a cluster that accepts everything and holds nothing. -/
def accepting : (q : Call) → q.Answer
  | .applyConfigMap _ m => .ok m
  | .applyDeployment _ d => .ok d
  | .applyService _ s => .ok s
  | .applyRoute _ r => .ok r
  | .ensureClaim .. => .ok ()
  | .listConfigMaps .. => .ok ([] : List Kubernetes.ConfigMap)
  | .listPodNames .. => .ok ([] : List String)
  | .patchStatus .. => .ok ()
  | .publishWarning .. => ()

/-- A server in the namespace `devices` that has no status yet. -/
def serverNamed (name : String) (spec : Spec) : ServerObject where
  metadata := { name := some name, «namespace» := some "devices" }
  spec := spec
  status := none

/-- An onboarding server that is reached under a name. -/
def onboardingAt (host : String) : OnboardingSpec where
  ownerOnboardingImage := OnboardingSpec.defaultOnboardingImage
  serviceInfoImage := OnboardingSpec.defaultServiceInfoImage
  ownerAddresses := [⟨.http, OwnerAddress.defaultPort, [⟨some host, none⟩]⟩]
  serviceInfo := none

end DeviceOnboard.Reconcile

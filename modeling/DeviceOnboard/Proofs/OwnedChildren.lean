import DeviceOnboard.Controller.Basic
import DeviceOnboard.Proofs.CycleRuns
import DeviceOnboard.Proofs.PlannedSteps
import DeviceOnboard.Proofs.SelectorText

/-!
# What a cycle applies belongs to its server

All calls of a cycle stay in the namespace of the server. What they apply carries the labels of the
server and names it as its controller, so that a watch of the controller reports it. Deployment,
pods and service are joined by these labels alone, and routes lead to the service. Only the claim
for vouchers has no owner.
-/
namespace DeviceOnboard.Reconcile

open DeviceOnboard.Cluster DeviceOnboard.Config DeviceOnboard.Controller DeviceOnboard.Dialogue
open DeviceOnboard.Kubernetes DeviceOnboard.Reconcile.Task DeviceOnboard.Server

/-! ## What objects and calls have to keep to -/

/-- A server that the API knows. -/
structure Identity where
  kind : Kind
  «namespace» : String
  name : String
  uid : String

namespace Identity

def labels (p : Identity) : Dictionary String := p.kind.labels p.name

/-- The one owner of the objects of a server. -/
def controller (p : Identity) : OwnerReference :=
  ⟨p.kind.resource.apiVersion, p.kind.resource.kind, p.name, p.uid, some true, none⟩

/-- The port that the service of a server opens. -/
def servicePort (p : Identity) : UInt16 :=
  match p.kind with
  | .manufacturing => Layout.manufacturing.port
  | .onboarding => Layout.onboarding.port
  | .rendezvous => Layout.rendezvous.port

/-- A watch of the controller reports an object as one that is made for a server. -/
def Watched (p : Identity) (routes : Bool) (r : Resource) (m : ObjectMeta) : Prop :=
  ∃ w ∈ Watch.all p.kind routes, w.role = .child ∧ w.resource = r ∧
    w.selector.selects m.label? = true

/-- The metadata of an object that belongs to a server. -/
structure Owns (p : Identity) (routes : Bool) (r : Resource) (m : ObjectMeta) : Prop where
  placed : m.namespace = some p.namespace
  labelled : m.labels = some p.labels
  owned : m.ownerReferences = some [p.controller]
  watched : p.Watched routes r m

/-- The namespace that a call acts in. -/
def namespaceOf : Call → Option String
  | .applyConfigMap ns _ | .applyDeployment ns _ | .applyService ns _ | .applyRoute ns _
  | .ensureClaim ns _ | .listConfigMaps ns _ | .listPodNames ns _ | .patchStatus _ ns _ _ => some ns
  | .publishWarning reference _ => reference.namespace

/-- What the objects of a call look like, and what it asks for. -/
def Belongs (p : Identity) (routes : Bool) : Call → Prop
  | .applyConfigMap _ m => p.Owns routes .configMaps m.metadata
  | .applyDeployment _ d =>
    p.Owns routes .deployments d.metadata ∧
      ∃ spec, d.spec = some spec ∧ spec.selector = { matchLabels := some p.labels } ∧
        ∃ m, spec.template.metadata = some m ∧ m.labels = some p.labels
  | .applyService _ s =>
    p.Owns routes .services s.metadata ∧ s.metadata.name = some p.name ∧
      ∃ spec port, s.spec = some spec ∧ spec.selector = some p.labels ∧
        spec.ports = some [port] ∧ port.port = Int32.ofNat p.servicePort.toNat
  | .applyRoute _ r =>
    p.Owns routes .routes r.metadata ∧ r.spec.target = ⟨"Service", p.name⟩ ∧
      r.spec.port = some ⟨.int (Int32.ofNat p.servicePort.toNat)⟩
  | .ensureClaim _ c =>
    c.metadata.namespace = some p.namespace ∧ c.metadata.ownerReferences = none
  | .listConfigMaps .. => True
  | .listPodNames _ selector =>
    selector = selectorOf p.labels ∧
      (',' ∉ p.name.toList → (Selector.ofText selector).selects p.labels.find? = true)
  | .patchStatus kind _ name _ => kind = p.kind ∧ name = p.name
  | .publishWarning reference _ =>
    reference.apiVersion = some p.kind.resource.apiVersion ∧
      reference.kind = some p.kind.resource.kind ∧ reference.name = some p.name ∧
        reference.uid = some p.uid

/-- A call stays in the namespace of a server and touches only what belongs to it. -/
def Confines (p : Identity) (routes : Bool) (q : Call) : Prop :=
  namespaceOf q = some p.namespace ∧ p.Belongs routes q

/-- The server as the owner of its objects. -/
def owner (p : Identity) : Owner := ⟨p.name, p.namespace, p.kind, some p.controller⟩

/-! ## The objects of a server -/

section

variable (p : Identity) {routes : Bool}

theorem watched_metadata {r : Resource} (known : r ∈ Watch.childResources routes) (name : String) :
    p.Watched routes r (p.owner.metadata name) := by
  refine ⟨.children r, ?_, rfl, rfl, ?_⟩
  · exact List.mem_append_left _ (List.mem_cons_of_mem _ (List.mem_map_of_mem known))
  · have app : (p.owner.metadata name).label? appLabel = some appName :=
      find?_labels_appLabel p.kind p.name
    simp [Watch.children, Selector.selects, Requirement.holds, app]

theorem owns_metadata {r : Resource} (known : r ∈ Watch.childResources routes) (name : String) :
    p.Owns routes r (p.owner.metadata name) where
  placed := rfl
  labelled := rfl
  owned := rfl
  watched := p.watched_metadata known name

theorem confines_configMap (name file text : String) :
    p.Confines routes (.applyConfigMap p.namespace (p.owner.configMap name file text)) :=
  ⟨rfl, p.owns_metadata (by simp [Watch.childResources]) name⟩

theorem confines_deployment (replicas : Int32) (pod : PodSpec) :
    p.Confines routes (.applyDeployment p.namespace (p.owner.deployment replicas pod)) :=
  ⟨rfl, p.owns_metadata (by simp [Watch.childResources]) p.name, _, rfl, rfl, _, rfl, rfl⟩

theorem confines_service :
    p.Confines routes (.applyService p.namespace (p.owner.service p.servicePort)) :=
  ⟨rfl, p.owns_metadata (by simp [Watch.childResources]) p.name, rfl, _, _, rfl, rfl, rfl, rfl⟩

theorem confines_route (host : Option String) :
    p.Confines true (.applyRoute p.namespace (p.owner.route p.servicePort host)) :=
  ⟨rfl, p.owns_metadata (by simp [Watch.childResources]) p.name, rfl, rfl⟩

theorem confines_claim (storageClass : Option String) :
    p.Confines routes (.ensureClaim p.namespace (voucherClaim p.namespace storageClass)) :=
  ⟨rfl, rfl, rfl⟩

theorem confines_listConfigMaps (selector : String) :
    p.Confines routes (.listConfigMaps p.namespace selector) :=
  ⟨rfl, trivial⟩

end

/-! ## The calls of a cycle -/

section

variable (ns name uid : String) (routes : Bool)

theorem confines_manufacturing (s : ManufacturingSpec) :
    ∀ q ∈ calls (Manufacturing.plan (owner ⟨.manufacturing, ns, name, uid⟩) routes s),
      Confines ⟨.manufacturing, ns, name, uid⟩ routes q := by
  have rest : ∀ q ∈ calls (Manufacturing.plan (owner ⟨.manufacturing, ns, name, uid⟩) false s),
      Confines ⟨.manufacturing, ns, name, uid⟩ routes q := by
    refine List.forall_mem_cons.mpr ⟨confines_configMap _ _ _ _, ?_⟩
    refine List.forall_mem_cons.mpr ⟨confines_claim _ _, ?_⟩
    refine List.forall_mem_cons.mpr ⟨confines_deployment _ _ _, ?_⟩
    exact List.forall_mem_singleton.mpr (confines_service _)
  cases routes
  · exact rest
  · exact List.forall_mem_cons.mpr ⟨confines_route _ _, rest⟩

theorem confines_onboarding (s : OnboardingSpec) (log : Log) :
    ∀ q ∈ calls (Onboarding.plan (owner ⟨.onboarding, ns, name, uid⟩) routes s log),
      Confines ⟨.onboarding, ns, name, uid⟩ routes q := by
  have rest (host : Option String) (maps : List ConfigMap) :
      ∀ q ∈ calls (Onboarding.planFor (owner ⟨.onboarding, ns, name, uid⟩) s host maps),
        Confines ⟨.onboarding, ns, name, uid⟩ routes q := by
    refine List.forall_mem_cons.mpr ⟨confines_configMap _ _ _ _, ?_⟩
    refine List.forall_mem_cons.mpr ⟨confines_listConfigMaps _ _, ?_⟩
    refine List.forall_mem_cons.mpr ⟨confines_configMap _ _ _ _, ?_⟩
    refine List.forall_mem_cons.mpr ⟨confines_claim _ _, ?_⟩
    refine List.forall_mem_cons.mpr ⟨confines_deployment _ _ _, ?_⟩
    exact List.forall_mem_singleton.mpr (confines_service _)
  cases routes
  · exact rest none (mapsIn log)
  · exact List.forall_mem_cons.mpr ⟨confines_route _ _, rest (hostIn log) (mapsIn log)⟩

theorem confines_rendezvous (s : RendezvousSpec) :
    ∀ q ∈ calls (Rendezvous.plan (owner ⟨.rendezvous, ns, name, uid⟩) routes s),
      Confines ⟨.rendezvous, ns, name, uid⟩ routes q := by
  refine List.forall_mem_cons.mpr ⟨confines_configMap _ _ _ _, ?_⟩
  refine List.forall_mem_cons.mpr ⟨confines_deployment _ _ _, ?_⟩
  refine List.forall_mem_cons.mpr ⟨confines_service _, ?_⟩
  cases routes
  · exact List.forall_mem_nil _
  · exact List.forall_mem_singleton.mpr (confines_route _ _)

end

theorem confines_planned (p : Identity) (routes : Bool) (log : Log) (s : Spec)
    (same : s.kind = p.kind) : ∀ q ∈ calls (planOf p.owner routes log s), p.Confines routes q := by
  obtain ⟨kind, ns, name, uid⟩ := p
  subst same
  cases s with
  | manufacturing s => exact confines_manufacturing ns name uid routes s
  | onboarding s => exact confines_onboarding ns name uid routes s log
  | rendezvous s => exact confines_rendezvous ns name uid routes s

end Identity

/-- The metadata of a server say where it is. -/
structure Describes (server : ServerObject) (p : Identity) : Prop where
  kind : server.kind = p.kind
  placed : server.metadata.namespace = some p.namespace
  named : server.metadata.name = some p.name
  identified : server.metadata.uid = some p.uid

theorem Describes.owner_eq {server : ServerObject} {p : Identity} (h : Describes server p) :
    ownerOf server p.namespace = p.owner := by
  simp [ownerOf, Identity.owner, Identity.controller, ObjectMeta.nameOrStem,
    Owner.referenceOf, h.kind, h.named, h.identified]

section

variable {server : ServerObject} {p : Identity} {routes : Bool} {now : Time} {m : Metrics}
  {log : Log} {outcome : Except Error Action × Metrics}

theorem Describes.confines_warning (h : Describes server p) (note : String) :
    p.Confines routes (.publishWarning server.reference note) := by
  simp [Identity.Confines, Identity.namespaceOf, Identity.Belongs, ServerObject.reference, h.kind,
    h.placed, h.named, h.identified]

theorem Identity.confines_pods (p : Identity) : p.Confines routes (podsCall p.owner) :=
  ⟨rfl, rfl, selects_labels p.kind⟩

/-- Every call of a cycle is confined to its server. -/
theorem Describes.confines (h : Describes server p)
    (run : Run (reconcile server routes now m) log outcome) :
    ∀ entry ∈ log, p.Confines routes entry.1 := by
  obtain ⟨result, applied, pods, stored, runs, stores, rfl, _⟩ :=
    (run_reconcile_iff h.placed).mp run
  rw [h.owner_eq] at runs stores ⊢
  have plan : ∀ entry ∈ applied, p.Confines routes entry.1 := fun entry member =>
    p.confines_planned routes applied server.spec h.kind entry.1
      (mem_calls_iff.mpr (calls_planned runs entry.1 (List.mem_map_of_mem member)))
  have warned : ∀ entry ∈ warnings server result, p.Confines routes entry.1 := by
    cases result with
    | ok a => exact List.forall_mem_nil _
    | error e => exact List.forall_mem_singleton.mpr (h.confines_warning e.message)
  have status : ∀ entry ∈ stored, p.Confines routes entry.1 := by
    cases stores with
    | unchanged same => exact List.forall_mem_nil _
    | patched changed answer => exact List.forall_mem_singleton.mpr ⟨rfl, rfl, rfl⟩
  refine List.forall_mem_append.mpr ⟨List.forall_mem_append.mpr ⟨plan, warned⟩, ?_⟩
  exact List.forall_mem_cons.mpr ⟨p.confines_pods, status⟩

/-- Whatever the cluster answers, and whatever the specification says, all calls of a cycle are
confined to the server: they act in its namespace, the objects that they apply carry its labels,
have it as their only owner and are watched by its controller, and only the claim for vouchers has
no owner. A route of a cycle leads to the port of the service of the cycle. All cycles of servers of
one kind and one name give one selector to their deployments. -/
theorem reconcile_confined (h : Describes server p)
    (run : Run (reconcile server routes now m) log outcome) :
    (∀ entry ∈ log, p.Confines routes entry.1) ∧
    (∀ ns ns' s r, .applyService ns s ∈ log.map (·.1) → .applyRoute ns' r ∈ log.map (·.1) →
      ∃ spec port, s.spec = some spec ∧ spec.ports = some [port] ∧ ns = ns' ∧
        r.spec.target.kind = Resource.services.kind ∧ some r.spec.target.name = s.metadata.name ∧
          r.spec.port = some ⟨.int port.port⟩) ∧
    ∀ server' p' routes' now' m' log' outcome', Describes server' p' →
      Run (reconcile server' routes' now' m') log' outcome' → p'.kind = p.kind →
      p'.name = p.name → ∀ ns d ns' d', .applyDeployment ns d ∈ log.map (·.1) →
        .applyDeployment ns' d' ∈ log'.map (·.1) →
          d'.spec.map (·.selector) = d.spec.map (·.selector) := by
  have confined := List.forall_mem_map.mpr (h.confines run)
  refine ⟨h.confines run, fun ns ns' s r service route => ?_,
    fun server' p' routes' now' m' log' outcome' h' run' kind name ns d ns' d' first second => ?_⟩
  · obtain ⟨inside, _, named, spec, port, hs, _, hports, hport⟩ := confined _ service
    obtain ⟨inside', _, target, leads⟩ := confined _ route
    refine ⟨spec, port, hs, hports, Option.some.inj (inside.trans inside'.symm), ?_, ?_, ?_⟩
    · rw [target]
      rfl
    · rw [target, named]
    · rw [leads, hport]
  · obtain ⟨_, _, spec, hspec, selector, _⟩ := confined _ first
    obtain ⟨_, _, spec', hspec', selector', _⟩ :=
      List.forall_mem_map.mpr (h'.confines run') _ second
    have labels : p'.labels = p.labels := by rw [Identity.labels, Identity.labels, kind, name]
    rw [hspec, hspec', Option.map_some, Option.map_some, selector, selector', labels]

end

/-- A rendezvous server in a namespace of its own. -/
def edgeServer (image : String) : ServerObject where
  metadata := { name := some "edge", «namespace» := some "devices", uid := some "5f3c" }
  spec := .rendezvous ⟨image⟩
  status := none

/-- The cycle of a rendezvous server is confined to it. -/
theorem edge_confined : ∃ log, ∃ outcome : Except Error Action × Metrics,
    Describes (edgeServer "fdo:1.0") ⟨.rendezvous, "devices", "edge", "5f3c"⟩ ∧
      Run (reconcile (edgeServer "fdo:1.0") true ⟨0, 0⟩ .zero) log outcome ∧
      outcome.1 = .ok .awaitChange ∧
      ∀ entry ∈ log, Identity.Confines ⟨.rendezvous, "devices", "edge", "5f3c"⟩ true entry.1 := by
  obtain ⟨log, run, _⟩ := exists_run_answeredBy accepting
    (reconcile (edgeServer "fdo:1.0") true ⟨0, 0⟩ .zero)
  have known : Describes (edgeServer "fdo:1.0") ⟨.rendezvous, "devices", "edge", "5f3c"⟩ :=
    ⟨rfl, rfl, rfl, rfl⟩
  exact ⟨log, _, known, run, rfl, (reconcile_confined known run).1⟩

end DeviceOnboard.Reconcile

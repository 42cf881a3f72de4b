import DeviceOnboard.Proofs.CycleRuns

/-!
# Children that servers share

The names of a server's children follow from its own name. Which children two servers write both
is settled here for all runs of their cycles: servers of one kind share none, and servers of
different kinds share those that bear the bare name of both, and a configuration map where the name
of a manufacturing server ends as the map of the other server does.
-/
namespace DeviceOnboard.Reconcile

open DeviceOnboard.Cluster DeviceOnboard.Dialogue DeviceOnboard.Kubernetes
open DeviceOnboard.Reconcile.Task DeviceOnboard.Server

/-- An object, told from others by its namespace, its kind and its name. -/
structure Child where
  «namespace» : String
  resource : Resource
  name : String
  deriving DecidableEq, Repr

/-- The object that a call applies. -/
def childOf : Call → Option Child
  | .applyConfigMap ns m => some ⟨ns, .configMaps, m.metadata.nameOrStem⟩
  | .applyDeployment ns d => some ⟨ns, .deployments, d.metadata.nameOrStem⟩
  | .applyService ns s => some ⟨ns, .services, s.metadata.nameOrStem⟩
  | .applyRoute ns r => some ⟨ns, .routes, r.metadata.nameOrStem⟩
  | _ => none

/-! ## The children of one server -/

/-- The children of a server in the order in which they are applied. -/
def children (ns : String) (routes : Bool) (kind : Kind) (name : String) : List Child :=
  let route := if routes then [⟨ns, .routes, name⟩] else []
  match kind with
  | .manufacturing =>
    route ++ [⟨ns, .configMaps, Manufacturing.configMapName name⟩, ⟨ns, .deployments, name⟩,
      ⟨ns, .services, name⟩]
  | .onboarding =>
    route ++ [⟨ns, .configMaps, Onboarding.configMapName name⟩,
      ⟨ns, .configMaps, Onboarding.serviceInfoMapName name⟩, ⟨ns, .deployments, name⟩,
      ⟨ns, .services, name⟩]
  | .rendezvous =>
    [⟨ns, .configMaps, Rendezvous.configMapName name⟩, ⟨ns, .deployments, name⟩,
      ⟨ns, .services, name⟩] ++ route

theorem manufacturing_follows (o : Owner) (routes : Bool) (s : ManufacturingSpec) :
    Follows childOf (children o.namespace routes .manufacturing o.name)
      (Manufacturing.apply o routes s) := by
  unfold Manufacturing.apply
  refine follows_skip (follows_checked _) fun config => ?_
  refine follows_optional routes (follows_asks (asks_applyRoute _ _) rfl) ?_
  refine follows_step (follows_asks (asks_applyConfigMap _ _) rfl) fun _ => ?_
  refine follows_skip (follows_asks (asks_ensureClaim _ _) rfl) fun _ => ?_
  refine follows_step (follows_asks (asks_applyDeployment _ _) rfl) fun _ => ?_
  refine follows_step (follows_asks (asks_applyService _ _) rfl) fun _ => ?_
  exact follows_pure _

theorem onboarding_follows (o : Owner) (routes : Bool) (s : OnboardingSpec) :
    Follows childOf (children o.namespace routes .onboarding o.name)
      (Onboarding.apply o routes s) := by
  unfold Onboarding.apply
  refine follows_bind ?_ fun host => ?_
  · cases routes
    · exact follows_pure _
    · exact follows_step (follows_asks (asks_applyRoute _ _) rfl) fun _ => follows_pure _
  refine follows_skip (follows_checked _) fun config => ?_
  refine follows_step (follows_asks (asks_applyConfigMap _ _) rfl) fun _ => ?_
  refine follows_skip (follows_asks (asks_listConfigMaps _ _) rfl) fun maps => ?_
  refine follows_skip (follows_checked _) fun files => ?_
  refine follows_step (follows_asks (asks_applyConfigMap _ _) rfl) fun _ => ?_
  refine follows_skip (follows_asks (asks_ensureClaim _ _) rfl) fun _ => ?_
  refine follows_step (follows_asks (asks_applyDeployment _ _) rfl) fun _ => ?_
  refine follows_step (follows_asks (asks_applyService _ _) rfl) fun _ => ?_
  exact follows_pure _

theorem rendezvous_follows (o : Owner) (routes : Bool) (s : RendezvousSpec) :
    Follows childOf (children o.namespace routes .rendezvous o.name)
      (Rendezvous.apply o routes s) := by
  unfold Rendezvous.apply
  refine follows_step (follows_asks (asks_applyConfigMap _ _) rfl) fun _ => ?_
  refine follows_step (follows_asks (asks_applyDeployment _ _) rfl) fun _ => ?_
  refine follows_step (follows_asks (asks_applyService _ _) rfl) fun _ => ?_
  cases routes
  · exact follows_pure _
  · exact follows_step (follows_asks (asks_applyRoute _ _) rfl) fun _ => follows_pure _

theorem apply_follows (o : Owner) (routes : Bool) (s : Spec) :
    Follows childOf (children o.namespace routes s.kind o.name) (apply o routes s) := by
  cases s with
  | manufacturing s => exact manufacturing_follows o routes s
  | onboarding s => exact onboarding_follows o routes s
  | rendezvous s => exact rendezvous_follows o routes s

/-- What a cycle applies besides the children of the server is nothing. -/
theorem reconcile_follows {server : ServerObject} {ns : String} {routes : Bool} {now : Time}
    {m : Metrics} {log : Log} {outcome : Except Error Action × Metrics}
    (placed : server.metadata.namespace = some ns)
    (run : Run (reconcile server routes now m) log outcome) :
    seen childOf log <+: children ns routes server.kind server.metadata.nameOrStem ∧
      ∀ a, outcome.1 = .ok a →
        seen childOf log = children ns routes server.kind server.metadata.nameOrStem := by
  obtain ⟨result, applied, pods, stored, h, stores, rfl, rfl⟩ := (run_reconcile_iff placed).mp run
  have rest :
      seen childOf (warnings server result ++ ⟨podsCall (ownerOf server ns), pods⟩ :: stored) =
        [] := by
    cases result <;> cases stores <;> rfl
  have follows := apply_follows (ownerOf server ns) routes server.spec
  rw [List.append_assoc, seen_append, rest, List.append_nil]
  refine ⟨follows.part h, fun a ok => ?_⟩
  cases ok
  exact follows.whole h

/-! ## Names -/

/-- The names of the configuration maps of a server. -/
def configMapNames : Kind → String → List String
  | .manufacturing, name => [Manufacturing.configMapName name]
  | .onboarding, name => [Onboarding.configMapName name, Onboarding.serviceInfoMapName name]
  | .rendezvous, name => [Rendezvous.configMapName name]

/-- What the names of the configuration maps of a kind have between the name of the server and the
ending that all of them have. -/
def mapSuffixes : Kind → List String
  | .manufacturing => [""]
  | .onboarding => ["-owner-onboarding", "-serviceinfo-api"]
  | .rendezvous => ["-rendezvous"]

theorem mem_configMapNames_iff {kind : Kind} {name map : String} :
    map ∈ configMapNames kind name ↔ ∃ t ∈ mapSuffixes kind, map = name ++ t ++ "-config" := by
  cases kind <;> simp [configMapNames, mapSuffixes, Manufacturing.configMapName,
    Onboarding.configMapName, Onboarding.serviceInfoMapName, Rendezvous.configMapName,
    String.append_assoc]

theorem mem_children_iff {ns name : String} {routes : Bool} {kind : Kind} {child : Child} :
    child ∈ children ns routes kind name ↔
      child = ⟨ns, .deployments, name⟩ ∨ child = ⟨ns, .services, name⟩ ∨
        (routes = true ∧ child = ⟨ns, .routes, name⟩) ∨
        ∃ map ∈ configMapNames kind name, child = ⟨ns, .configMaps, map⟩ := by
  cases kind <;> cases routes <;> simp [children, configMapNames] <;> grind

theorem manufacturing_of_empty {kind : Kind} : "" ∈ mapSuffixes kind → kind = .manufacturing := by
  cases kind <;> decide

/-- The last character of a suffix tells which suffix it is. -/
theorem suffix_eq_of_last {kind kind' : Kind} :
    ∀ t ∈ mapSuffixes kind, ∀ t' ∈ mapSuffixes kind',
      t.toList.getLast? = t'.toList.getLast? → kind = kind' ∧ t = t' := by
  cases kind <;> cases kind' <;> decide

theorem last_of_append_eq {a b s t : String} (hs : s ≠ "") (ht : t ≠ "") (same : a ++ s = b ++ t) :
    s.toList.getLast? = t.toList.getLast? := by
  have last := congrArg (fun x => x.toList.getLast?) same
  simp only [String.toList_append] at last
  rwa [List.getLast?_append_of_ne_nil _ (by simpa using hs),
    List.getLast?_append_of_ne_nil _ (by simpa using ht)] at last

/-- Names of two servers with suffixes are equal only if the servers are, or if one suffix is the
empty one and the name in front of it ends as the other. -/
theorem suffix_of_append_eq {kind kind' : Kind} {name name' t t' : String}
    (ht : t ∈ mapSuffixes kind) (ht' : t' ∈ mapSuffixes kind') (same : name ++ t = name' ++ t') :
    (kind = kind' ∧ name = name') ∨ (kind = .manufacturing ∧ name = name' ++ t') ∨
      (kind' = .manufacturing ∧ name' = name ++ t) := by
  by_cases empty : t = ""
  · subst empty
    exact .inr (.inl ⟨manufacturing_of_empty ht, by simpa using same⟩)
  by_cases empty' : t' = ""
  · subst empty'
    exact .inr (.inr ⟨manufacturing_of_empty ht', by simpa using same.symm⟩)
  obtain ⟨sameKind, rfl⟩ := suffix_eq_of_last t ht t' ht' (last_of_append_eq empty empty' same)
  exact .inl ⟨sameKind, (String.append_left_inj t).mp same⟩

/-! ## Children in common -/

/-- The children that two servers of different kinds have in common. -/
inductive Overlap (ns : String) : Kind → String → Kind → String → Child → Prop where
  | deployment {kind kind' : Kind} (different : kind ≠ kind') (name : String) :
      Overlap ns kind name kind' name ⟨ns, .deployments, name⟩
  | service {kind kind' : Kind} (different : kind ≠ kind') (name : String) :
      Overlap ns kind name kind' name ⟨ns, .services, name⟩
  | route {kind kind' : Kind} (different : kind ≠ kind') (name : String) :
      Overlap ns kind name kind' name ⟨ns, .routes, name⟩
  /-- The name of a manufacturing server ends as the map of the other server does. -/
  | configMap {kind : Kind} (different : kind ≠ .manufacturing) {t : String}
      (ending : t ∈ mapSuffixes kind) (name : String) :
      Overlap ns .manufacturing (name ++ t) kind name
        ⟨ns, .configMaps, Manufacturing.configMapName (name ++ t)⟩
  | configMapSwapped {kind : Kind} (different : kind ≠ .manufacturing) {t : String}
      (ending : t ∈ mapSuffixes kind) (name : String) :
      Overlap ns kind name .manufacturing (name ++ t)
        ⟨ns, .configMaps, Manufacturing.configMapName (name ++ t)⟩

theorem overlap_of_configMap {ns name name' map : String} {kind kind' : Kind}
    (different : kind ≠ kind' ∨ name ≠ name') (h : map ∈ configMapNames kind name)
    (h' : map ∈ configMapNames kind' name') :
    Overlap ns kind name kind' name' ⟨ns, .configMaps, map⟩ := by
  obtain ⟨t, ht, rfl⟩ := mem_configMapNames_iff.mp h
  obtain ⟨t', ht', same⟩ := mem_configMapNames_iff.mp h'
  rw [String.append_left_inj] at same
  rcases suffix_of_append_eq ht ht' same with ⟨rfl, rfl⟩ | ⟨rfl, rfl⟩ | ⟨rfl, rfl⟩
  · simp at different
  · obtain rfl := List.mem_singleton.mp ht
    have other : kind' ≠ .manufacturing := by
      rintro rfl
      obtain rfl := List.mem_singleton.mp ht'
      simp at different
    simpa [Manufacturing.configMapName] using Overlap.configMap other ht' name'
  · obtain rfl := List.mem_singleton.mp ht'
    have other : kind ≠ .manufacturing := by
      rintro rfl
      obtain rfl := List.mem_singleton.mp ht
      simp at different
    exact Overlap.configMapSwapped other ht name

/-- The kinds of the children are different from each other. -/
theorem resources_ne :
    Resource.deployments ≠ .services ∧ Resource.deployments ≠ .routes ∧
      Resource.deployments ≠ .configMaps ∧ Resource.services ≠ .routes ∧
      Resource.services ≠ .configMaps ∧ Resource.routes ≠ .configMaps := by
  decide

/-- Servers share a child exactly if their kinds and names overlap in it, and a route only if both
have one. -/
theorem common_child_iff {ns name name' : String} {routes routes' : Bool} {kind kind' : Kind}
    {child : Child} (different : kind ≠ kind' ∨ name ≠ name') :
    (child ∈ children ns routes kind name ∧ child ∈ children ns routes' kind' name') ↔
      Overlap ns kind name kind' name' child ∧
        (child.resource = .routes → routes = true ∧ routes' = true) := by
  have kinds (same : name = name') : kind ≠ kind' := by simpa [same] using different
  obtain ⟨ds, dr, dc, sr, sc, rc⟩ := resources_ne
  simp only [mem_children_iff]
  constructor
  · rintro ⟨rfl | rfl | ⟨on, rfl⟩ | ⟨map, hmap, rfl⟩, second⟩
    · obtain rfl : name = name' := by simpa [ds, dr, dc] using second
      exact ⟨.deployment (kinds rfl) name, fun h => absurd h dr⟩
    · obtain rfl : name = name' := by simpa [ds.symm, sr, sc] using second
      exact ⟨.service (kinds rfl) name, fun h => absurd h sr⟩
    · obtain ⟨on', rfl⟩ : routes' = true ∧ name = name' := by
        simpa [dr.symm, sr.symm, rc] using second
      exact ⟨.route (kinds rfl) name, fun _ => ⟨on, on'⟩⟩
    · have hmap' : map ∈ configMapNames kind' name' := by
        simpa [dc.symm, sc.symm, rc.symm] using second
      exact ⟨overlap_of_configMap different hmap hmap', fun h => absurd h.symm rc⟩
  · rintro ⟨overlap, routed⟩
    have map (name : String) :
        Manufacturing.configMapName name ∈ configMapNames .manufacturing name :=
      List.mem_singleton_self _
    cases overlap with
    | deployment => exact ⟨.inl rfl, .inl rfl⟩
    | service => exact ⟨.inr (.inl rfl), .inr (.inl rfl)⟩
    | route =>
      obtain ⟨on, on'⟩ := routed rfl
      exact ⟨.inr (.inr (.inl ⟨on, rfl⟩)), .inr (.inr (.inl ⟨on', rfl⟩))⟩
    | configMap _ ending name =>
      exact ⟨.inr (.inr (.inr ⟨_, map _, rfl⟩)),
        .inr (.inr (.inr ⟨_, mem_configMapNames_iff.mpr ⟨_, ending, rfl⟩, rfl⟩))⟩
    | configMapSwapped _ ending name =>
      exact ⟨.inr (.inr (.inr ⟨_, mem_configMapNames_iff.mpr ⟨_, ending, rfl⟩, rfl⟩)),
        .inr (.inr (.inr ⟨_, map _, rfl⟩))⟩

/-- The objects that the calls of a log apply. -/
def applied (log : Log) : List Child := seen childOf log

/-! ## Two servers -/

/-- A manufacturing server whose devices know one rendezvous server. -/
def plainManufacturing : ManufacturingSpec where
  replicas := 1
  image := ManufacturingSpec.defaultImage
  resources := none
  storageClassName := none
  routeHost := none
  logLevel := none
  rendezvousServers := [⟨some "rendezvous.example", none, none, none, none⟩]
  protocols := ⟨true, none⟩

def plainRendezvous : RendezvousSpec := ⟨RendezvousSpec.defaultImage⟩

theorem exists_manufacturing_run (name : String) :
    ∃ log, Run (reconcile (serverNamed name (.manufacturing plainManufacturing)) true ⟨0, 0⟩ .zero)
      log (.ok .awaitChange, Metrics.zero.reconciled .manufacturing) := by
  obtain ⟨log, run, _⟩ := exists_run_answeredBy accepting
    (reconcile (serverNamed name (.manufacturing plainManufacturing)) true ⟨0, 0⟩ .zero)
  exact ⟨log, run⟩

theorem exists_rendezvous_run (name : String) :
    ∃ log, Run (reconcile (serverNamed name (.rendezvous plainRendezvous)) true ⟨0, 0⟩ .zero)
      log (.ok .awaitChange, Metrics.zero.reconciled .rendezvous) := by
  obtain ⟨log, run, _⟩ := exists_run_answeredBy accepting
    (reconcile (serverNamed name (.rendezvous plainRendezvous)) true ⟨0, 0⟩ .zero)
  exact ⟨log, run⟩

/-- Two servers of a namespace that differ in kind or in name apply an object in common only where
their kinds and names overlap, and they do apply it if both cycles succeed. -/
theorem applied_overlap {server server' : ServerObject} {ns : String} {routes routes' : Bool}
    {now now' : Time} {m m' : Metrics} {log log' : Log}
    {outcome outcome' : Except Error Action × Metrics}
    (placed : server.metadata.namespace = some ns) (placed' : server'.metadata.namespace = some ns)
    (different : server.kind ≠ server'.kind ∨
      server.metadata.nameOrStem ≠ server'.metadata.nameOrStem)
    (run : Run (reconcile server routes now m) log outcome)
    (run' : Run (reconcile server' routes' now' m') log' outcome') :
    (∀ child ∈ applied log, child ∈ applied log' →
      Overlap ns server.kind server.metadata.nameOrStem server'.kind server'.metadata.nameOrStem
        child) ∧
    ∀ a a' child, outcome.1 = .ok a → outcome'.1 = .ok a' →
      Overlap ns server.kind server.metadata.nameOrStem server'.kind server'.metadata.nameOrStem
        child →
      (child.resource = .routes → routes = true ∧ routes' = true) →
      child ∈ applied log ∧ child ∈ applied log' := by
  have follows := reconcile_follows placed run
  have follows' := reconcile_follows placed' run'
  constructor
  · intro child member member'
    exact ((common_child_iff different).mp
      ⟨follows.1.subset member, follows'.1.subset member'⟩).1
  · intro a a' child ok ok' overlap routed
    rw [applied, applied, follows.2 a ok, follows'.2 a' ok']
    exact (common_child_iff different).mpr ⟨overlap, routed⟩

/-- Two servers of the name `fdo` write the same deployment. -/
theorem same_name_same_deployment :
    ∃ log log', Run (reconcile (serverNamed "fdo" (.manufacturing plainManufacturing)) true ⟨0, 0⟩
        .zero) log (.ok .awaitChange, Metrics.zero.reconciled .manufacturing) ∧
      Run (reconcile (serverNamed "fdo" (.rendezvous plainRendezvous)) true ⟨0, 0⟩ .zero) log'
        (.ok .awaitChange, Metrics.zero.reconciled .rendezvous) ∧
      Kind.manufacturing ≠ .rendezvous ∧ ⟨"devices", .deployments, "fdo"⟩ ∈ applied log ∧
      ⟨"devices", .deployments, "fdo"⟩ ∈ applied log' := by
  obtain ⟨log, run⟩ := exists_manufacturing_run "fdo"
  obtain ⟨log', run'⟩ := exists_rendezvous_run "fdo"
  have all : applied log = children "devices" true .manufacturing "fdo" :=
    (reconcile_follows rfl run).2 _ rfl
  have all' : applied log' = children "devices" true .rendezvous "fdo" :=
    (reconcile_follows rfl run').2 _ rfl
  refine ⟨log, log', run, run', by decide, ?_, ?_⟩
  · rw [all]
    decide
  · rw [all']
    decide

/-- The configuration map of the manufacturing server `fdo-rendezvous` is that of the rendezvous
server `fdo`. -/
theorem applied_overlap_configMap :
    ∃ log log', Run (reconcile (serverNamed "fdo-rendezvous" (.manufacturing plainManufacturing))
        true ⟨0, 0⟩ .zero) log (.ok .awaitChange, Metrics.zero.reconciled .manufacturing) ∧
      Run (reconcile (serverNamed "fdo" (.rendezvous plainRendezvous)) true ⟨0, 0⟩ .zero) log'
        (.ok .awaitChange, Metrics.zero.reconciled .rendezvous) ∧
      ⟨"devices", .configMaps, "fdo-rendezvous-config"⟩ ∈ applied log ∧
      ⟨"devices", .configMaps, "fdo-rendezvous-config"⟩ ∈ applied log' := by
  obtain ⟨log, run⟩ := exists_manufacturing_run "fdo-rendezvous"
  obtain ⟨log', run'⟩ := exists_rendezvous_run "fdo"
  have overlap := applied_overlap rfl rfl (.inl (by decide)) run run'
  have shared : Overlap "devices" .manufacturing "fdo-rendezvous" .rendezvous "fdo"
      ⟨"devices", .configMaps, "fdo-rendezvous-config"⟩ :=
    .configMap (show Kind.rendezvous ≠ .manufacturing by decide) (List.mem_singleton_self _) "fdo"
  exact ⟨log, log', run, run', overlap.2 _ _ _ rfl rfl shared (by decide)⟩

end DeviceOnboard.Reconcile

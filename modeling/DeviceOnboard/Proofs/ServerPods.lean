import DeviceOnboard.Proofs.ListedFiles
import DeviceOnboard.Proofs.SelectorText

/-!
# The pods of one server

A server is led to its pods by labels in two ways: its status counts the pods that the text of a
selector matches, and its service selects those that bear the labels of the server. The kind and
the name of a server can be read off its labels, so neither way leads to a pod of another server,
whether that has the same name and another kind, or a name that is longer.
-/
namespace DeviceOnboard

/-! ## Objects with labels -/

namespace Kubernetes

/-- All labels of a dictionary are there, and maybe others under other keys. -/
def Bears (labels : String → Option String) (d : Dictionary String) : Prop :=
  ∀ e ∈ d.entries, labels e.1 = some e.2

/-- The labels are those of a pod that a deployment makes: the pod bears what its template says. -/
def Deployment.Makes (d : Deployment) (labels : String → Option String) : Prop :=
  ∃ spec m own, d.spec = some spec ∧ spec.template.metadata = some m ∧ m.labels = some own ∧
    Bears labels own

/-- A service leads to the pods that bear all labels of its selector. -/
def Service.Reaches (s : Service) (labels : String → Option String) : Prop :=
  ∃ spec selected, s.spec = some spec ∧ spec.selector = some selected ∧ Bears labels selected

end Kubernetes

namespace Server

open DeviceOnboard.Kubernetes

variable {kind kind' : Kind} {name name' : String} {labels : String → Option String}

/-! ## The labels of servers -/

theorem service_inj : kind.service = kind'.service ↔ kind = kind' := by
  cases kind <;> cases kind' <;> decide

theorem bears_labels_iff : Bears labels (kind.labels name) ↔ labels appLabel = some appName ∧
    labels instanceLabel = some name ∧ labels serviceLabel = some kind.service := by
  simp [Bears, entries_labels]

/-- Whoever bears the labels of two servers bears those of one. -/
theorem bears_other_iff (own : Bears labels (kind'.labels name')) :
    Bears labels (kind.labels name) ↔ kind = kind' ∧ name = name' := by
  obtain ⟨app, instanceOf, service⟩ := bears_labels_iff.mp own
  rw [bears_labels_iff, app, instanceOf, service]
  simp only [Option.some.injEq, true_and, service_inj]
  constructor
  · rintro ⟨sameName, sameKind⟩
    exact ⟨sameKind.symm, sameName.symm⟩
  · rintro ⟨sameKind, sameName⟩
    exact ⟨sameName.symm, sameKind.symm⟩

/-- The selector of a server asks for each of its labels. -/
theorem ofText_selector (plain : ',' ∉ name.toList) : Selector.ofText (kind.selector name) =
    ⟨(kind.labels name).entries.map fun e => .equals e.1 e.2⟩ :=
  ofText_selectorOf (by simp [entries_labels]) (plain_labels kind plain)

theorem selects_selector_iff (plain : ',' ∉ name.toList) :
    (Selector.ofText (kind.selector name)).selects labels = true ↔
      Bears labels (kind.labels name) := by
  rw [ofText_selector plain]
  simp [Selector.selects, Requirement.holds, Bears]

/-- The text of a selector is cut into the labels that it is written from. -/
theorem splitText_selector (noComma : ',' ∉ name.toList) (noEquals : '=' ∉ name.toList) :
    (Text.splitText ',' (kind.selector name)).map (Text.splitText '=') =
      (kind.labels name).entries.map fun e => [e.1, e.2] := by
  have keys : '=' ∉ appLabel.toList ∧ '=' ∉ instanceLabel.toList ∧ '=' ∉ serviceLabel.toList := by
    decide
  have app : '=' ∉ appName.toList := by decide
  have service : '=' ∉ kind.service.toList := by cases kind <;> decide
  have plain : ∀ e ∈ (kind.labels name).entries, '=' ∉ e.1.toList ∧ '=' ∉ e.2.toList := by
    simp [entries_labels, keys, app, service, noEquals]
  rw [Kind.selector, splitText_selectorOf (by simp [entries_labels]) (plain_labels kind noComma),
    List.map_map]
  refine List.map_congr_left fun e member => ?_
  obtain ⟨key, value⟩ := plain e member
  exact splitText_requirement key value

theorem makes_deployment_iff {o : Owner} {replicas : Int32} {pod : PodSpec} :
    (o.deployment replicas pod).Makes labels ↔ Bears labels o.labels := by
  simp [Deployment.Makes, Owner.deployment]

theorem reaches_service_iff {o : Owner} {port : UInt16} :
    (o.service port).Reaches labels ↔ Bears labels o.labels := by
  simp [Service.Reaches, Owner.service]

end Server

namespace Reconcile

open DeviceOnboard.Cluster DeviceOnboard.Dialogue DeviceOnboard.Kubernetes
open DeviceOnboard.Reconcile.Task DeviceOnboard.Server

/-! ## What a cycle does with pods -/

section

variable {o : Owner} {routes : Bool} {past : Log} {s : Spec} {ns : String}

theorem planned_deployment {d : Deployment}
    (planned : .call (.applyDeployment ns d) ∈ planOf o routes past s) :
    ∃ replicas pod, d = o.deployment replicas pod := by
  obtain ⟨rest, split, first, last⟩ := plan_split o routes past s
  have deployment : deploys (.call (.applyDeployment ns d)) = true := rfl
  rw [split] at planned
  rcases List.mem_append.mp planned with before | found
  · simp [first _ before] at deployment
  · rcases List.mem_cons.mp found with same | after
    · cases same
      cases s <;> exact ⟨_, _, rfl⟩
    · simp [last _ after] at deployment

theorem planned_service {v : Service}
    (planned : .call (.applyService ns v) ∈ planOf o routes past s) :
    ∃ port, v = o.service port := by
  cases s with
  | manufacturing s =>
    cases routes <;> simp [planOf, Manufacturing.plan] at planned <;> exact ⟨_, planned.2⟩
  | rendezvous s =>
    cases routes <;> simp [planOf, Rendezvous.plan] at planned <;> exact ⟨_, planned.2⟩
  | onboarding s =>
    cases routes <;>
      simp [planOf, Onboarding.plan, Onboarding.planFor, Onboarding.routeCall] at planned <;>
      exact ⟨_, planned.2⟩

end

/-- The entry of a list of pods with its answer. -/
abbrev podListing (ns selector : String) (answer : Except Cluster.Error (List String)) :
    (q : Call) × q.Answer := ⟨.listPodNames ns selector, answer⟩

/-- The names that are listed are those of the pods that a selector matches, and no two pods of a
namespace have the same name. -/
structure ListsPods (pods : List ObjectMeta) (log : Log) : Prop where
  distinct : ∀ p ∈ pods, ∀ q ∈ pods, p.namespace = q.namespace → p.nameOrStem = q.nameOrStem →
    p = q
  selected : ∀ ns selector names, podListing ns selector (.ok names) ∈ log → ∀ name,
    name ∈ names ↔ ∃ p ∈ pods, p.namespace = some ns ∧
      (Selector.ofText selector).selects p.label? = true ∧ p.nameOrStem = name

section

variable {pods : List ObjectMeta} {log : Log} {kind kind' : Kind} {name name' ns : String}
  {names : List String}

/-- With the selector of a server the names of its own pods are listed. -/
theorem ListsPods.mem_iff (h : ListsPods pods log) (plain : ',' ∉ name.toList)
    (listed : podListing ns (kind.selector name) (.ok names) ∈ log) (pod : String) :
    pod ∈ names ↔ ∃ p ∈ pods, p.namespace = some ns ∧ Bears p.label? (kind.labels name) ∧
      p.nameOrStem = pod := by
  rw [h.selected _ _ _ listed]
  simp only [selects_selector_iff plain]

/-- The pod of a server is listed with the selector of this server alone. -/
theorem ListsPods.name_mem_iff (h : ListsPods pods log) (plain : ',' ∉ name.toList)
    (listed : podListing ns (kind.selector name) (.ok names) ∈ log) {p : ObjectMeta}
    (member : p ∈ pods) (placed : p.namespace = some ns)
    (own : Bears p.label? (kind'.labels name')) :
    p.nameOrStem ∈ names ↔ kind = kind' ∧ name = name' := by
  rw [h.mem_iff plain listed, ← bears_other_iff own]
  constructor
  · rintro ⟨q, memberQ, placedQ, bears, same⟩
    obtain rfl := h.distinct q memberQ p member (placedQ.trans placed.symm) same
    exact bears
  · exact fun bears => ⟨p, member, placed, bears, rfl⟩

end

/-- A cycle deals with no pods but those of its server: its deployment makes them, its service leads
to them, it lists them with its selector, and they are counted in its status. When they cannot be
listed, those of the old status stay. -/
structure KeepsToPods (server : ServerObject) (ns : String) (log : Log) : Prop where
  makes : ∀ ns' d, .applyDeployment ns' d ∈ log.map (·.1) → ∀ labels,
    d.Makes labels ↔ Bears labels (server.kind.labels server.metadata.nameOrStem)
  reaches : ∀ ns' v, .applyService ns' v ∈ log.map (·.1) → ∀ kind name labels,
    Bears labels (kind.labels name) →
      (v.Reaches labels ↔ server.kind = kind ∧ server.metadata.nameOrStem = name)
  asks : ∀ ns' selector, .listPodNames ns' selector ∈ log.map (·.1) →
    ns' = ns ∧ selector = server.kind.selector server.metadata.nameOrStem
  lists : ∀ pods, ListsPods pods log → ∀ selector names,
    podListing ns selector (.ok names) ∈ log → ∀ p ∈ pods, p.namespace = some ns →
      ∀ kind name, Bears p.label? (kind.labels name) →
        (p.nameOrStem ∈ names ↔ server.kind = kind ∧ server.metadata.nameOrStem = name)
  counts : ∀ kind ns' name status stored, ⟨.patchStatus kind ns' name status, stored⟩ ∈ log →
    ∃ selector answer, podListing ns selector answer ∈ log ∧
      status.pods = podsOr server.status answer

section

variable {server : ServerObject} {routes : Bool} {now : Time} {m : Metrics} {log : Log}
  {outcome : Except Error Action × Metrics} {ns : String}

/-- A cycle lists the pods once, and the status that it stores counts them. -/
theorem cycle_pods (placed : server.metadata.namespace = some ns)
    (run : Run (reconcile server routes now m) log outcome) :
    ∃ answer : Except Cluster.Error (List String),
      ⟨podsCall (ownerOf server ns), answer⟩ ∈ log ∧
      (∀ ns' selector found, ⟨.listPodNames ns' selector, found⟩ ∈ log →
        ns' = ns ∧ selector = server.kind.selector server.metadata.nameOrStem ∧
          found = answer) ∧
      ∀ kind ns' name status stored, ⟨.patchStatus kind ns' name status, stored⟩ ∈ log →
        status.pods = podsOr server.status answer := by
  obtain ⟨result, answer, listed, records⟩ := cycle_records placed run
  refine ⟨answer, listed, fun ns' selector found asked => ?_,
    fun kind ns' name status stored patched => ?_⟩
  · rcases records _ asked rfl with ⟨e, -, same⟩ | same | ⟨stored, same⟩
    · cases same
    · cases same
      exact ⟨rfl, rfl, rfl⟩
    · cases same
  · rcases records _ patched rfl with ⟨e, -, same⟩ | same | ⟨stored', same⟩
    · cases same
    · cases same
    · cases same
      rfl

theorem cycle_keepsToPods (placed : server.metadata.namespace = some ns)
    (plain : ',' ∉ server.metadata.nameOrStem.toList)
    (run : Run (reconcile server routes now m) log outcome) : KeepsToPods server ns log := by
  obtain ⟨answer, listed, only, stored⟩ := cycle_pods placed run
  constructor
  case makes =>
    intro ns' d made labels
    obtain ⟨past, planned⟩ := cycle_planned run placed made rfl
    obtain ⟨replicas, pod, rfl⟩ := planned_deployment planned
    exact makes_deployment_iff
  case reaches =>
    intro ns' v made kind name labels own
    obtain ⟨past, planned⟩ := cycle_planned run placed made rfl
    obtain ⟨port, rfl⟩ := planned_service planned
    exact reaches_service_iff.trans (bears_other_iff own)
  case asks =>
    intro ns' selector asked
    obtain ⟨⟨_, found⟩, member, rfl⟩ := List.mem_map.mp asked
    obtain ⟨place, same, -⟩ := only ns' selector found member
    exact ⟨place, same⟩
  case lists =>
    intro pods h selector names given p member inside kind name own
    obtain ⟨-, rfl, -⟩ := only _ _ _ given
    exact h.name_mem_iff plain given member inside own
  case counts =>
    intro kind ns' name status found patched
    exact ⟨_, answer, listed, stored kind ns' name status found patched⟩

end

/-- For every kind of server and every name without commas and equals signs:

- the labels of the server are the three of the application, the name and the kind, in the order of
  their keys; the text of its selector, cut at the commas and then at the equals signs, is just
  these labels, and it is read as the selector that asks for each of them;
- the text, read as a selector, matches the labels of the pod of a server, among which there may be
  others, exactly if that server is of the same kind and has the same name;
- every cycle of such a server keeps to its own pods, whatever the cluster answers. -/
theorem selectors_isolate_servers (kind : Kind) {name : String} (noComma : ',' ∉ name.toList)
    (noEquals : '=' ∉ name.toList) :
    ((kind.labels name).entries =
        [(appLabel, appName), (instanceLabel, name), (serviceLabel, kind.service)] ∧
      Ascending (kind.labels name).entries ∧
      (Text.splitText ',' (kind.selector name)).map (Text.splitText '=') =
        ((kind.labels name).entries.map fun e => [e.1, e.2]) ∧
      Selector.ofText (kind.selector name) =
        ⟨(kind.labels name).entries.map fun e => .equals e.1 e.2⟩) ∧
    (∀ kind' name' labels, Bears labels (kind'.labels name') →
      ((Selector.ofText (kind.selector name)).selects labels = true ↔
        kind = kind' ∧ name = name')) ∧
    ∀ (server : ServerObject) ns routes now metrics log (outcome : Except Error Action × Metrics),
      server.kind = kind → server.metadata.nameOrStem = name →
      server.metadata.namespace = some ns →
      Run (reconcile server routes now metrics) log outcome → KeepsToPods server ns log := by
  refine ⟨⟨entries_labels kind name, (kind.labels name).ascending,
    splitText_selector noComma noEquals, ofText_selector noComma⟩,
    fun kind' name' labels own => ?_, ?_⟩
  · rw [selects_selector_iff noComma]
    exact bears_other_iff own
  · rintro server ns routes now metrics log outcome rfl rfl placed run
    exact cycle_keepsToPods placed noComma run

/-! ### Three servers with similar names -/

/-- A pod of a server in the namespace `devices`, with a label that the server does not set. -/
def labelledPod (kind : Kind) (server name : String) : ObjectMeta where
  name := some name
  «namespace» := some "devices"
  labels := some ((kind.labels server).insert "pod-template-hash" "6b7d9c")

/-- The answers of a cluster that accepts everything and has some pods. -/
def acceptingWith (pods : List ObjectMeta) : (q : Call) → q.Answer
  | .listPodNames ns selector =>
    .ok ((pods.filter fun p => p.namespace = some ns ∧
      (Selector.ofText selector).selects p.label?).map (·.nameOrStem))
  | q => accepting q

theorem listsPods_acceptingWith {pods : List ObjectMeta} {log : Log}
    (distinct : ∀ p ∈ pods, ∀ q ∈ pods, p.namespace = q.namespace →
      p.nameOrStem = q.nameOrStem → p = q)
    (answered : AnsweredBy (acceptingWith pods) log) : ListsPods pods log := by
  refine ⟨distinct, fun ns selector names listed name => ?_⟩
  obtain rfl := Except.ok.inj (answered _ listed)
  simp [and_assoc]

def edgePods : List ObjectMeta :=
  [labelledPod .rendezvous "edge" "edge-a", labelledPod .onboarding "edge" "edge-b",
    labelledPod .rendezvous "edge-2" "edge-2-a"]

/-- The rendezvous server `edge` counts its own pod, and neither that of the onboarding server
`edge` nor that of the rendezvous server `edge-2`. -/
theorem edge_counts_own_pod :
    ∃ log, ∃ outcome : Except Error Action × Metrics, ∃ kind ns name, ∃ status : Status,
      Run (reconcile (serverNamed "edge" (.rendezvous ⟨"fdo:1.0"⟩)) true ⟨0, 0⟩ .zero) log outcome ∧
      .patchStatus kind ns name status ∈ log.map (·.1) ∧ "edge-a" ∈ status.pods ∧
        "edge-b" ∉ status.pods ∧ "edge-2-a" ∉ status.pods := by
  obtain ⟨log, run, answered⟩ := exists_run_answeredBy (acceptingWith edgePods)
    (reconcile (serverNamed "edge" (.rendezvous ⟨"fdo:1.0"⟩)) true ⟨0, 0⟩ .zero)
  have names : (edgePods.map (·.nameOrStem)).Nodup := by decide
  have cluster : ListsPods edgePods log := listsPods_acceptingWith
    (fun p first q second _ same => List.inj_on_of_nodup_map names first second same) answered
  have keeps : KeepsToPods (serverNamed "edge" (.rendezvous ⟨"fdo:1.0"⟩)) "devices" log :=
    (selectors_isolate_servers .rendezvous (by decide) (by decide)).2.2 _ _ _ _ _ _ _ rfl rfl rfl
      run
  obtain ⟨status, patched⟩ : ∃ status,
      .patchStatus .rendezvous "devices" "edge" status ∈ log.map (·.1) := by
    obtain ⟨result, applied, found, stored, -, stores, rfl, -⟩ := (run_reconcile_iff rfl).mp run
    cases stores with
    | unchanged same => cases same
    | patched =>
      exact ⟨_, List.mem_map_of_mem
        (List.mem_append_right _ (List.mem_cons_of_mem _ List.mem_cons_self))⟩
  obtain ⟨⟨_, stored⟩, member, rfl⟩ := List.mem_map.mp patched
  obtain ⟨selector, found, listed, counted⟩ := keeps.counts _ _ _ _ stored member
  cases found with
  | error e => cases answered _ listed
  | ok names =>
    have own := keeps.lists edgePods cluster selector names listed
    refine ⟨log, _, _, _, _, status, run, patched, ?_⟩
    rw [show status.pods = names from counted]
    have first := own (labelledPod .rendezvous "edge" "edge-a") (by simp [edgePods]) rfl
      .rendezvous "edge" (bears_labels_iff.mpr ⟨rfl, rfl, rfl⟩)
    have second := own (labelledPod .onboarding "edge" "edge-b") (by simp [edgePods]) rfl
      .onboarding "edge" (bears_labels_iff.mpr ⟨rfl, rfl, rfl⟩)
    have third := own (labelledPod .rendezvous "edge-2" "edge-2-a") (by simp [edgePods]) rfl
      .rendezvous "edge-2" (bears_labels_iff.mpr ⟨rfl, rfl, rfl⟩)
    refine ⟨first.mpr ⟨rfl, rfl⟩, fun counted => ?_, fun counted => ?_⟩
    · cases (second.mp counted).1
    · exact absurd (third.mp counted).2 (by decide)

end Reconcile

end DeviceOnboard

import DeviceOnboard.Proofs.BuiltConfigurations
import DeviceOnboard.Proofs.PodMounts
import DeviceOnboard.Proofs.PreparedSteps
import DeviceOnboard.Proofs.RecordedOutcomes
import DeviceOnboard.Proofs.YamlDocuments

/-!
# What follows a list of configuration maps

Only a cycle of an onboarding server lists configuration maps, and it does so once. If all of them
hold a file, then the files go into the configuration for service information and into the
deployment, each once and in the order of the names; if one does not, then the cycle ends there, and
none of what would come next is made.
-/
namespace DeviceOnboard.Reconcile

open DeviceOnboard.Cluster DeviceOnboard.Config DeviceOnboard.Dialogue DeviceOnboard.Kubernetes
open DeviceOnboard.Reconcile.Onboarding (fileOf filesOf mapNames)
open DeviceOnboard.Reconcile.Task DeviceOnboard.Server

/-! ## Lists -/

/-- The configuration maps that an entry of a log lists. -/
def listedIn : (q : Call) × q.Answer → List ConfigMap
  | ⟨.listConfigMaps .., .ok maps⟩ => maps
  | _ => []

def lists : Call → Bool
  | .listConfigMaps .. => true
  | _ => false

/-- The call makes an object that is made after the files for devices are known. -/
def followsFiles (server : String) : Call → Bool
  | .applyConfigMap _ m => m.metadata.nameOrStem == Onboarding.serviceInfoMapName server
  | .ensureClaim .. | .applyDeployment .. | .applyService .. => true
  | _ => false

/-- The entry of a list that has succeeded. -/
abbrev listing (ns selector : String) (maps : List ConfigMap) : (q : Call) × q.Answer :=
  ⟨.listConfigMaps ns selector, (.ok maps : Except Cluster.Error (List ConfigMap))⟩

theorem eq_listing {entry : (q : Call) × q.Answer} {m : ConfigMap} (member : m ∈ listedIn entry) :
    ∃ ns selector, entry = listing ns selector (listedIn entry) := by
  obtain ⟨q, a⟩ := entry
  cases q with
  | listConfigMaps ns selector =>
    cases (a : Except Cluster.Error (List ConfigMap)) with
    | ok maps => exact ⟨ns, selector, rfl⟩
    | error => cases member
  | _ => cases member

theorem exists_refusal {maps : List ConfigMap} (invalid : ¬ ∀ m ∈ maps, ∃ f, fileOf m = .ok f) :
    ∃ e, filesOf maps = .error e := by
  cases found : filesOf maps with
  | ok files => exact absurd (Onboarding.filesOf_ok_iff.mp found).1 invalid
  | error e => exact ⟨e, rfl⟩

variable {o : Owner} {routes : Bool} {s : Spec} {log past rest : Log} {r : Except Error Action}
  {ns selector : String} {maps : List ConfigMap}

theorem mapsIn_of_not_lists (none : ∀ entry ∈ past, lists entry.1 = false) :
    mapsIn (past ++ listing ns selector maps :: rest) = maps := by
  induction past with
  | nil => rfl
  | cons entry past ih =>
    obtain ⟨first, later⟩ := List.forall_mem_cons.mp none
    obtain ⟨q, a⟩ := entry
    cases q with
    | listConfigMaps => cases first
    | _ => exact ih later

/-! ## Applying the objects of a server -/

/-- After a call that succeeds come the steps that stand after it. -/
theorem Ends.passed_call {a : Action} {steps : List Step} {entry : (q : Call) × q.Answer}
    (h : Ends a steps log r) (made : log = past ++ entry :: rest) (ok : failure? entry = none) :
    ∃ before after, steps = before ++ .call entry.1 :: after ∧ Passed before past ∧
      Ends a after rest r := by
  induction h generalizing past with
  | done => simp at made
  | @pass step steps part log r first ends ih =>
    cases first with
    | check subject =>
      obtain ⟨before, after, rfl, passed, later⟩ := ih made
      exact ⟨.check subject none :: before, after, rfl, .cons (.check subject) passed, later⟩
    | @call first okFirst =>
      cases past with
      | nil =>
        cases made
        exact ⟨[], steps, rfl, .nil, ends⟩
      | cons head past =>
        obtain ⟨rfl, same⟩ := List.cons.inj made
        obtain ⟨before, after, rfl, passed, later⟩ := ih same
        exact ⟨.call first.1 :: before, after, rfl, .cons (.call okFirst) passed, later⟩
  | @fail step steps log e failed =>
    cases failed with
    | check subject e => simp at made
    | @call only e failed =>
      cases past with
      | nil =>
        cases made
        rw [ok] at failed
        cases failed
      | cons head past => simp at made

theorem name_ownMap_ne (o : Owner) (file text : String) :
    (o.configMap (Onboarding.configMapName o.name) file text).metadata.nameOrStem ≠
      Onboarding.serviceInfoMapName o.name := onboarding_maps_ne o.name

/-- A plan lists the configuration maps of its server, in its namespace. -/
theorem listed_planned (planned : .call (.listConfigMaps ns selector) ∈ planOf o routes log s) :
    ns = o.namespace ∧ selector = Onboarding.fileSelector o.name := by
  cases s with
  | manufacturing s => cases routes <;> simp [planOf, Manufacturing.plan] at planned
  | rendezvous s => cases routes <;> simp [planOf, Rendezvous.plan] at planned
  | onboarding s =>
    cases routes <;>
      simpa [planOf, Onboarding.plan, Onboarding.planFor, Onboarding.routeCall] using planned

/-- A plan that lists configuration maps does so once, and then checks the files. -/
theorem plan_lists (planned : .call (.listConfigMaps ns selector) ∈ planOf o routes log s) :
    ∃ front back, planOf o routes log s = front ++ .call (.listConfigMaps ns selector) ::
        .check .files (errorOf? (filesOf (mapsIn log))) :: back ∧
      (∀ q, .call q ∈ front → lists q = false ∧ followsFiles o.name q = false) ∧
      ∀ q, .call q ∈ back → lists q = false := by
  cases s with
  | manufacturing s => cases routes <;> simp [planOf, Manufacturing.plan] at planned
  | rendezvous s => cases routes <;> simp [planOf, Rendezvous.plan] at planned
  | onboarding s =>
    obtain ⟨rfl, rfl⟩ := listed_planned planned
    cases routes with
    | true =>
      refine ⟨[_, _, _], _, rfl, ?_, by simp [lists]⟩
      simp [lists, Onboarding.routeCall, followsFiles, name_ownMap_ne]
    | false =>
      refine ⟨[_, _], _, rfl, ?_, by simp [lists]⟩
      simp [lists, followsFiles, name_ownMap_ne]

/-- The list is the only one. Nothing that follows it is made before, and then come the files. -/
theorem list_splits (run : Runs (apply o routes s) (past ++ listing ns selector maps :: rest) r) :
    (∀ entry ∈ past, lists entry.1 = false ∧ followsFiles o.name entry.1 = false) ∧
      ∃ back, Ends (onSuccess s) (.check .files (errorOf? (filesOf maps)) :: back) rest r := by
  have ends : Ends (onSuccess s) (planOf o routes (past ++ listing ns selector maps :: rest) s)
      (past ++ listing ns selector maps :: rest) r := (apply_performs o routes s _ r).mp run
  obtain ⟨before, after, plan, passed, later⟩ := ends.passed_call rfl rfl
  have planned : .call (.listConfigMaps ns selector) ∈
      planOf o routes (past ++ listing ns selector maps :: rest) s := by
    rw [plan]
    exact List.mem_append_right _ List.mem_cons_self
  obtain ⟨front, back, split, first, last⟩ := plan_lists planned
  obtain ⟨rfl, -, rfl⟩ := (List.append_cons_inj_of_notMem
    (fun member => by simpa [lists] using (first _ member).1)
    (fun member => by simpa [lists] using last _ ((List.mem_cons.mp member).resolve_left nofun))).mp
      (split.symm.trans plan)
  have earlier : ∀ entry ∈ past, lists entry.1 = false ∧ followsFiles o.name entry.1 = false :=
    fun entry member => first _ (passed.planned entry member)
  rw [mapsIn_of_not_lists fun entry member => (earlier entry member).1] at later
  exact ⟨earlier, back, later⟩

/-- The files that were listed are those that the plan goes by. -/
theorem mapsIn_of_mem (run : Runs (apply o routes s) log r)
    (member : listing ns selector maps ∈ log) : mapsIn log = maps := by
  obtain ⟨past, rest, rfl⟩ := List.append_of_mem member
  exact mapsIn_of_not_lists fun entry member => ((list_splits run).1 entry member).1

/-- Files that are refused end the run. -/
theorem ends_of_refused {e : Config.Error} (refused : filesOf maps = .error e)
    (run : Runs (apply o routes s) (past ++ listing ns selector maps :: rest) r) :
    rest = [] ∧ r = .error (.deviceFile e) := by
  obtain ⟨-, back, later⟩ := list_splits run
  rw [refused] at later
  exact ends_refused_check_iff.mp later

/-- The files of configuration maps go into what an onboarding server applies: one for each map, in
ascending order of the names. -/
structure Built (o : Owner) (s : OnboardingSpec) (maps : List ConfigMap) (log : Log)
    (files : List DeviceFile) : Prop where
  names : (files.map (·.configMap)).Perm (mapNames maps)
  ascending : files.Pairwise fun f g => f.configMap < g.configMap
  deployment : ∀ ns d a, ⟨.applyDeployment ns d, a⟩ ∈ log → d = Onboarding.deployment o s files
  configuration : ∀ (ns : String) m a, ⟨.applyConfigMap ns m, a⟩ ∈ log →
    m.metadata.nameOrStem = Onboarding.serviceInfoMapName o.name →
      m = o.configMap (Onboarding.serviceInfoMapName o.name) Layout.serviceInfo.fileName
        (ServiceInfoConfig.ofSpec s.serviceInfo files).text

/-- So they stand, all of them and in this order, among the volumes and the mounts of the pod and in
the document that configures the server for service information. -/
structure Delivered (o : Owner) (s : OnboardingSpec) (maps : List ConfigMap) (log : Log)
    (files : List DeviceFile) : Prop extends Built o s maps log files where
  pod : ∀ ns d a, ⟨.applyDeployment ns d, a⟩ ∈ log → ∃ p, podOf d = some p ∧ HasFiles p files
  document : ∀ (ns : String) m a, ⟨.applyConfigMap ns m, a⟩ ∈ log →
    m.metadata.nameOrStem = Onboarding.serviceInfoMapName o.name →
      ∃ text y, m.data = some (.ofList [(Layout.serviceInfo.fileName, text)]) ∧
        Yaml.ofText? text = some y ∧ WritesServiceInfo s.serviceInfo files y

theorem Built.delivered {s : OnboardingSpec} {files : List DeviceFile}
    (h : Built o s maps log files) : Delivered o s maps log files where
  toBuilt := h
  pod ns d a made := by
    rw [h.deployment ns d a made]
    exact ⟨podFor o.name files (.onboarding s), rfl, Onboarding.hasFiles_pod o.name s files⟩
  document ns m a made named := by
    rw [h.configuration ns m a made named]
    exact ⟨_, _, rfl, ofText?_serviceInfo _, writesServiceInfo_ofSpec s.serviceInfo files⟩

/-- The configuration for service information is made from the files that are listed. -/
theorem eq_of_planned {s : OnboardingSpec} {m : ConfigMap}
    (planned : .call (.applyConfigMap ns m) ∈ planOf o routes log (.onboarding s))
    (named : m.metadata.nameOrStem = Onboarding.serviceInfoMapName o.name) :
    m = o.configMap (Onboarding.serviceInfoMapName o.name) Layout.serviceInfo.fileName
      (written (·.text)
        ((filesOf (mapsIn log)).map (ServiceInfoConfig.ofSpec s.serviceInfo))) := by
  have own : m ≠ o.configMap (Onboarding.configMapName o.name) Layout.onboarding.fileName
      (written (·.text) (OnboardingConfig.ofSpec s (if routes then hostIn log else none))) := by
    rintro rfl
    exact name_ownMap_ne o _ _ named
  cases routes <;>
    simp [planOf, Onboarding.plan, Onboarding.planFor, Onboarding.routeCall] at planned own
  · exact (planned.resolve_left fun h => own h.2).2
  · exact (planned.resolve_left fun h => own h.2).2

section

variable {s : OnboardingSpec} {files : List DeviceFile}
  (run : Runs (apply o routes (.onboarding s)) log r) (member : listing ns selector maps ∈ log)
  (read : filesOf maps = .ok files)
include run member read

/-- The files that are read are mounted into the pod. -/
theorem deployed {ns : String} {d : Deployment} {a : Except Cluster.Error Deployment}
    (made : ⟨.applyDeployment ns d, a⟩ ∈ log) : d = Onboarding.deployment o s files := by
  obtain ⟨before, after, split⟩ := List.append_of_mem made
  obtain ⟨-, -, same⟩ := prepared run split
  rw [same, mapsIn_of_mem run member]
  unfold filesIn
  rw [read]
  rfl

/-- The files that are read go into the configuration for service information. -/
theorem configured {ns : String} {m : ConfigMap} {a : Except Cluster.Error ConfigMap}
    (made : ⟨.applyConfigMap ns m, a⟩ ∈ log)
    (named : m.metadata.nameOrStem = Onboarding.serviceInfoMapName o.name) :
    m = o.configMap (Onboarding.serviceInfoMapName o.name) Layout.serviceInfo.fileName
      (ServiceInfoConfig.ofSpec s.serviceInfo files).text := by
  have info := eq_of_planned (calls_planned run _ (List.mem_map_of_mem made)) named
  rw [mapsIn_of_mem run member, read] at info
  exact info

end

theorem exists_built {s : OnboardingSpec} (run : Runs (apply o routes (.onboarding s)) log r)
    (member : listing ns selector maps ∈ log) (distinct : (mapNames maps).Nodup)
    (valid : ∀ m ∈ maps, ∃ f, fileOf m = .ok f) : ∃ files, Built o s maps log files := by
  have read := Onboarding.filesOf_ok_iff.mpr ⟨valid, rfl⟩
  exact ⟨_, Onboarding.names_filesOf read, Onboarding.ascending_filesOf read distinct,
    fun _ _ _ made => deployed run member read made,
    fun _ _ _ made named => configured run member read made named⟩

/-! ## Cycles -/

variable {server : ServerObject} {now : Time} {m : Metrics} {place : String}
  {outcome : Except Error Action × Metrics}

/-- A cycle applies the objects of its server, and then records how this went. -/
theorem cycle_splits (run : Run (reconcile server routes now m) log outcome)
    (placed : server.metadata.namespace = some place) :
    ∃ applied recorded, Runs (apply (ownerOf server place) routes server.spec) applied outcome.1 ∧
      log = applied ++ recorded ∧ ∀ entry ∈ recorded, isRecord entry.1 = true := by
  obtain ⟨result, applied, pods, stored, applies, stores, rfl, rfl⟩ :=
    (run_reconcile_iff placed).mp run
  refine ⟨applied, _, applies, List.append_assoc _ _ _, List.forall_mem_append.mpr ⟨?_, ?_⟩⟩
  · cases result <;> simp [warnings, isRecord]
  · refine List.forall_mem_cons.mpr ⟨rfl, ?_⟩
    cases stores <;> simp [isRecord]

/-- What a cycle does besides recording how it went is done to apply the objects. -/
theorem cycle_applies (run : Run (reconcile server routes now m) log outcome)
    (placed : server.metadata.namespace = some place) :
    ∃ applied, Runs (apply (ownerOf server place) routes server.spec) applied outcome.1 ∧
      ∀ entry ∈ log, isRecord entry.1 = false → entry ∈ applied := by
  obtain ⟨applied, recorded, applies, rfl, records⟩ := cycle_splits run placed
  refine ⟨applied, applies, fun entry member other => ?_⟩
  rcases List.mem_append.mp member with inApplied | inRecorded
  · exact inApplied
  · simp [records entry inRecorded] at other

/-- It stands in the plan of the server. -/
theorem cycle_planned (run : Run (reconcile server routes now m) log outcome)
    (placed : server.metadata.namespace = some place) {q : Call} (made : q ∈ log.map (·.1))
    (other : isRecord q = false) :
    ∃ past, .call q ∈ planOf (ownerOf server place) routes past server.spec := by
  obtain ⟨applied, applies, inApplied⟩ := cycle_applies run placed
  obtain ⟨entry, member, rfl⟩ := List.mem_map.mp made
  exact ⟨applied, calls_planned applies _ (List.mem_map_of_mem (inApplied entry member other))⟩

theorem cycle_delivered {spec : OnboardingSpec}
    (run : Run (reconcile server routes now m) log outcome)
    (placed : server.metadata.namespace = some place) (kind : server.spec = .onboarding spec)
    (member : listing ns selector maps ∈ log) (distinct : (mapNames maps).Nodup)
    (valid : ∀ m ∈ maps, ∃ f, fileOf m = .ok f) :
    ∃ files, Delivered (ownerOf server place) spec maps log files := by
  obtain ⟨applied, applies, inApplied⟩ := cycle_applies run placed
  rw [kind] at applies
  obtain ⟨files, h⟩ := exists_built applies (inApplied _ member rfl) distinct valid
  have built : Built (ownerOf server place) spec maps log files :=
    ⟨h.names, h.ascending, fun ns d a made => h.deployment ns d a (inApplied _ made rfl),
      fun ns m a made => h.configuration ns m a (inApplied _ made rfl)⟩
  exact ⟨files, built.delivered⟩

/-- If a cycle lists a configuration map that holds no file, then it ends there, except that it
records its outcome, an error about a file. -/
theorem cycle_refused (invalid : ¬ ∀ m ∈ maps, ∃ f, fileOf m = .ok f)
    (run : Run (reconcile server routes now m) (past ++ listing ns selector maps :: rest) outcome) :
    (∀ entry ∈ past, lists entry.1 = false ∧
      followsFiles server.metadata.nameOrStem entry.1 = false) ∧
    (∀ entry ∈ rest, isRecord entry.1 = true) ∧ ∃ e, outcome.1 = .error (.deviceFile e) := by
  obtain ⟨e, refused⟩ := exists_refusal invalid
  cases placed : server.metadata.namespace with
  | none =>
    obtain ⟨empty, -⟩ := (run_reconcile_unplaced_iff placed).mp run
    simp at empty
  | some place =>
    obtain ⟨applied, recorded, applies, split, records⟩ := cycle_splits run placed
    have notRecorded : listing ns selector maps ∉ recorded := fun member => by
      simpa [isRecord] using records _ member
    rcases List.append_eq_append_iff.mp split with ⟨middle, rfl, split'⟩ | ⟨middle, -, rfl⟩
    · cases middle with
      | nil =>
        rw [List.nil_append] at split'
        exact absurd (split' ▸ List.mem_cons_self) notRecorded
      | cons entry middle =>
        obtain ⟨rfl, rfl⟩ := List.cons.inj split'
        obtain ⟨rfl, failed⟩ := ends_of_refused refused applies
        exact ⟨(list_splits applies).1, records, e, failed⟩
    · exact absurd (List.mem_append_right _ List.mem_cons_self) notRecorded

end DeviceOnboard.Reconcile

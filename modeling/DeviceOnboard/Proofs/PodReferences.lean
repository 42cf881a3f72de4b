import DeviceOnboard.Proofs.ConfiguredPaths
import DeviceOnboard.Proofs.DialogueAgreement
import DeviceOnboard.Proofs.PodMounts
import DeviceOnboard.Proofs.PreparedSteps
import DeviceOnboard.Proofs.SharedChildren
import DeviceOnboard.Proofs.YamlDocuments

/-!
# What the pods refer to

A pod refers to configuration maps and claims through its volumes, and the configurations of its
containers refer to the places where keys and files are mounted. For every server and all files for
devices these references lead somewhere: to what has been applied before the deployment, to the
configuration maps that were listed, and to mounts of the container that reads the configuration.
-/
namespace DeviceOnboard.Reconcile

open DeviceOnboard.Cluster DeviceOnboard.Config DeviceOnboard.Kubernetes
open DeviceOnboard.Reconcile.Onboarding (fileOf filesOf mapNames greeting)
open DeviceOnboard.Reconcile.Task DeviceOnboard.Server

variable {o : Owner} {routes : Bool} {s : Spec} {log before after : Log} {ns : String}
  {d : Deployment} {answer : Except Cluster.Error Deployment} {r : Except Error Action}

/-! ## What the volumes stand for -/

/-- The volumes of a server: its configurations, files for devices, its keys and its vouchers. -/
inductive Origin (server : String) (files : List DeviceFile) (kind : Kind) : Volume → Prop where
  | config {name map : String} (own : map ∈ configMapNames kind server)
      (apart : name ≠ MountedVolume.voucherVolumeName) :
      Origin server files kind ⟨name, .configMap map⟩
  | file (delivers : kind = .onboarding) (i : Nat) {f : DeviceFile} (own : f ∈ files) :
      Origin server files kind ⟨fileVolumeName i, .configMap f.configMap⟩
  | key {name secret file : String} (apart : name ≠ MountedVolume.voucherVolumeName) :
      Origin server files kind ⟨name, .secret secret [file]⟩
  | vouchers (kept : kind ≠ .rendezvous) :
      Origin server files kind MountedVolume.vouchers.volume

theorem origin_groupsOf (server : String) (files : List DeviceFile) (kind : Kind) :
    ∀ g ∈ groupsOf server files kind, ∀ v ∈ g, Origin server files kind v.volume := by
  have keys : ∀ v ∈ (keyFiles kind).map (MountedVolume.ofKey keysDirectory),
      Origin server files kind v.volume := by
    intro v member
    obtain ⟨key, own, rfl⟩ := List.mem_map.mp member
    have apart : ∀ key ∈ keyFiles kind,
        MountedVolume.secretVolumeName key.secret ≠ MountedVolume.voucherVolumeName := by
      cases kind <;> decide
    exact .key (apart key own)
  cases kind with
  | manufacturing =>
    refine List.forall_mem_singleton.mpr ?_
    refine List.forall_mem_cons.mpr ⟨.config (List.mem_singleton_self _) (by decide), ?_⟩
    exact List.forall_mem_cons.mpr ⟨.vouchers (by decide), keys⟩
  | rendezvous =>
    refine List.forall_mem_singleton.mpr ?_
    exact List.forall_mem_cons.mpr ⟨.config (List.mem_singleton_self _) (by decide), keys⟩
  | onboarding =>
    refine List.forall_mem_cons.mpr ⟨?_, List.forall_mem_singleton.mpr ?_⟩
    · refine List.forall_mem_cons.mpr ⟨.config List.mem_cons_self (by decide), ?_⟩
      exact List.forall_mem_cons.mpr ⟨.vouchers (by decide), keys⟩
    · refine List.forall_mem_cons.mpr
        ⟨.config (List.mem_cons_of_mem _ (List.mem_singleton_self _)) (by decide), ?_⟩
      intro v member
      obtain ⟨i, f, own, rfl⟩ := Onboarding.mem_fileVolumes member
      exact .file rfl i own

/-- What the volumes of a pod name is there before its deployment. -/
structure Supplied (ns : String) (before : Log) (p : PodSpec) : Prop where
  /-- A configuration map has been applied, or it is one of those that were listed. -/
  maps : ∀ v ∈ volumesOf p, ∀ name, v.source = .configMap name →
    (∃ m a, ⟨.applyConfigMap ns m, (.ok a : Except Cluster.Error ConfigMap)⟩ ∈ before ∧
      m.metadata.nameOrStem = name) ∨ name ∈ mapNames (mapsIn before)
  /-- The claim for vouchers has been made. -/
  vouchers : ∀ v ∈ volumesOf p,
    (v.name = MountedVolume.voucherVolumeName ∨ ∃ name, v.source = .claim name) →
    ∃ c, ⟨.ensureClaim ns c, (.ok () : Except Cluster.Error Unit)⟩ ∈ before ∧
      v.source = .claim c.metadata.nameOrStem

/-! ## Containers and what configures them -/

/-- A container of a server: where it reads its configuration, the map and the text of this, the
keys and the files for devices that it needs, and what is mounted. -/
structure Site where
  layout : Layout
  map : String
  text : String
  keys : List String
  files : List DeviceFile
  volumes : List MountedVolume

/-- The configuration map that configures a container. -/
def Site.configMap (o : Owner) (x : Site) : ConfigMap := o.configMap x.map x.layout.fileName x.text

/-- The containers of a server, with what a log tells of the host and the files. -/
def sitesOf (o : Owner) (routes : Bool) (log : Log) : Spec → List Site
  | .manufacturing s =>
    [{ layout := .manufacturing
       map := Manufacturing.configMapName o.name
       text := written (·.text) (ManufacturingConfig.ofSpec s)
       keys := keyNames .manufacturing
       files := []
       volumes := Manufacturing.volumes o.name }]
  | .onboarding s =>
    [{ layout := .onboarding
       map := Onboarding.configMapName o.name
       text := written (·.text) (OnboardingConfig.ofSpec s (if routes then hostIn log else none))
       keys := keyNames .onboarding
       files := []
       volumes := Onboarding.ownVolumes o.name ++ Onboarding.keyVolumes },
      { layout := .serviceInfo
        map := Onboarding.serviceInfoMapName o.name
        text := written (·.text)
          ((filesOf (mapsIn log)).map (ServiceInfoConfig.ofSpec s.serviceInfo))
        keys := []
        files := filesIn (mapsIn log)
        volumes := Onboarding.serviceInfoVolume o.name ::
          Onboarding.fileVolumes (filesIn (mapsIn log)) }]
  | .rendezvous _ =>
    [{ layout := .rendezvous
       map := Rendezvous.configMapName o.name
       text := Config.Rendezvous.text
       keys := keyNames .rendezvous
       files := []
       volumes := Rendezvous.volumes o.name }]

theorem volumes_sitesOf (o : Owner) (routes : Bool) (log : Log) (s : Spec) :
    (sitesOf o routes log s).map (·.volumes) =
      groupsOf o.name (filesIn (mapsIn log)) s.kind := by
  cases s <;> rfl

theorem maps_sitesOf (o : Owner) (routes : Bool) (log : Log) (s : Spec) :
    (sitesOf o routes log s).map (·.map) = configMapNames s.kind o.name := by
  cases s <;> rfl

/-- The configuration maps that are applied before the deployment are those of the containers. -/
theorem applies_iff {ns : String} {m : ConfigMap} :
    .call (.applyConfigMap ns m) ∈ preparation o routes log s ↔
      ns = o.namespace ∧ ∃ x ∈ sitesOf o routes log s, x.configMap o = m := by
  cases s <;> cases routes <;>
    simp [preparation, planOf, sitesOf, Manufacturing.plan, Rendezvous.plan, Onboarding.plan,
      Onboarding.planFor, deploys, Site.configMap, Onboarding.routeCall, eq_comm] <;> tauto

/-! ### What the configuration of a container names -/

/-- A setting of the configuration of a container leads somewhere. -/
structure Resolves (before : Log) (p : PodSpec) (c : Container) (place : List String) (s : String) :
    Prop where
  /-- The path of a key, unless it is copied from a description, is where the container has the
  file of this key mounted. -/
  key : place ∉ copiedPlaces → ∀ file, file ≠ "" → s = keyPath file →
    ∃ secret, Mounts p c s (some file) (.secret secret [file])
  /-- A file lies in just one of the mounts of the container, under a key of the configuration map
  that is mounted there, which is one of those that were listed. -/
  source : place = sourcePlace →
    ∃ m, (mountsOf c).filter (fun m => liesBelow m.mountPath s) = [m] ∧
      ∃ map ∈ mapsIn before, ∃ key ∈ map.keys, s = m.mountPath ++ "/" ++ key ∧
        Mounts p c m.mountPath none (.configMap map.metadata.nameOrStem)

/-- A container reads its configuration from a configuration map, and finds all that this names. -/
def Configures (before : Log) (p : PodSpec) (c : Container) (map : ConfigMap) : Prop :=
  ∃ l ∈ [Layout.manufacturing, .onboarding, .serviceInfo, .rendezvous], ∃ text y,
    map.data = some (.ofList [(l.fileName, text)]) ∧
    Mounts p c l.directory none (.configMap map.metadata.nameOrStem) ∧
    Yaml.ofText? text = some y ∧
    ∀ setting ∈ y.settings [], Resolves before p c setting.1 setting.2

/-- A file is where its path says, and nowhere else among some mounted volumes. -/
structure Delivers (before : Log) (volumes : List MountedVolume) (f : DeviceFile) : Prop where
  mounted : ∃ name, .ofConfigMap name f.configMap f.mountPath ∈ volumes
  listed : ∃ map ∈ mapsIn before, fileOf map = .ok f
  alone : ∀ v ∈ volumes, liesBelow v.mount.mountPath f.sourcePath = true →
    v.mount.mountPath = f.mountPath

structure Site.Sound (before : Log) (x : Site) : Prop where
  known : x.layout ∈ [Layout.manufacturing, .onboarding, .serviceInfo, .rendezvous]
  mounted : ∃ name, .ofConfigMap name x.map x.layout.directory ∈ x.volumes
  read : ∃ y, Yaml.ofText? x.text = some y ∧ Yaml.Every (Placed x.keys x.files) [] y
  keys : ∀ file ∈ x.keys, ∃ secret, .ofKey keysDirectory ⟨secret, file⟩ ∈ x.volumes
  files : ∀ f ∈ x.files, Delivers before x.volumes f
  paths : (x.volumes.map (·.mount.mountPath)).Nodup

section

variable {p : PodSpec} {groups : List (List MountedVolume)} {c : Container} {x : Site}

theorem Site.Sound.source (h : x.Sound before) (arranged : Arranged p groups)
    (own : x.volumes ∈ groups) (mounts : mountsOf c = x.volumes.map (·.mount)) {f : DeviceFile}
    (member : f ∈ x.files) :
    ∃ m, (mountsOf c).filter (fun m => liesBelow m.mountPath f.sourcePath) = [m] ∧
      ∃ map ∈ mapsIn before, ∃ key ∈ map.keys, f.sourcePath = m.mountPath ++ "/" ++ key ∧
        Mounts p c m.mountPath none (.configMap map.metadata.nameOrStem) := by
  obtain ⟨⟨name, inside⟩, ⟨map, listed, held⟩, alone⟩ := h.files f member
  obtain ⟨named, key, inMap, path⟩ := Onboarding.fileOf_ok held
  have mounted := arranged.mounts_of_mem own mounts inside
  have placed : (MountedVolume.ofConfigMap name f.configMap f.mountPath).mount ∈ mountsOf c := by
    rw [mounts]
    exact List.mem_map_of_mem inside
  refine ⟨_, filter_key (·.mountPath) ?_ placed ?_ ?_, map, listed, key, inMap, path, ?_⟩
  · rw [mounts, List.map_map]
    exact h.paths
  · rw [path]
    exact liesBelow_append _ _
  · intro m other below
    rw [mounts] at other
    obtain ⟨v, own', rfl⟩ := List.mem_map.mp other
    exact alone v own' below
  · rw [← named]
    exact mounted

theorem Site.Sound.resolves (h : x.Sound before) (arranged : Arranged p groups)
    (own : x.volumes ∈ groups) (mounts : mountsOf c = x.volumes.map (·.mount)) {place : List String}
    {s : String} (placed : Placed x.keys x.files place s) : Resolves before p c place s where
  key := by
    rintro notCopied file named rfl
    obtain ⟨file', needed, same⟩ := placed.key_of_path notCopied (isKeyPath_keyPath named)
    obtain rfl : file = file' := (String.append_right_inj _).mp same
    obtain ⟨secret, inside⟩ := h.keys file needed
    exact ⟨secret, arranged.mounts_of_mem own mounts inside⟩
  source := by
    rintro rfl
    obtain ⟨f, member, rfl⟩ := placed.source_of_place
    exact h.source arranged own mounts member

theorem Site.Sound.configures (h : x.Sound before) (arranged : Arranged p groups)
    (own : x.volumes ∈ groups) (mounts : mountsOf c = x.volumes.map (·.mount)) :
    Configures before p c (x.configMap o) := by
  obtain ⟨name, inside⟩ := h.mounted
  obtain ⟨y, read, settings⟩ := h.read
  exact ⟨x.layout, h.known, x.text, y, rfl, arranged.mounts_of_mem own mounts inside, read,
    fun setting member => h.resolves arranged own mounts (settings setting member)⟩

end

/-! ### The containers of the servers -/

theorem written_of_ok {α : Type} {text : α → String} {x : Except Config.Error α} {a : α}
    (ok : x = .ok a) : written text x = text a := by
  rw [ok]
  rfl

/-- Each key that a server reads is mounted. -/
theorem exists_key {kind : Kind} : ∀ file ∈ keyNames kind, ∃ secret,
    .ofKey keysDirectory ⟨secret, file⟩ ∈
      (keyFiles kind).map (MountedVolume.ofKey keysDirectory) := by
  intro file needed
  obtain ⟨key, own, rfl⟩ := List.mem_map.mp needed
  exact ⟨key.secret, List.mem_map_of_mem own⟩

theorem sound_manufacturing {s : ManufacturingSpec}
    (passed : Passed (preparation o routes log (.manufacturing s)) before) :
    ∀ x ∈ sitesOf o routes log (.manufacturing s), x.Sound before := by
  obtain ⟨config, ok⟩ := accepted_manufacturing passed
  refine List.forall_mem_singleton.mpr ?_
  constructor
  case known => simp
  case mounted => exact ⟨_, List.mem_cons_self⟩
  case read =>
    rw [written_of_ok ok]
    exact ⟨config.toYaml, ofText?_manufacturing config, placed_manufacturing config⟩
  case keys =>
    intro file needed
    obtain ⟨secret, inside⟩ := exists_key file needed
    exact ⟨secret, List.mem_cons_of_mem _ (List.mem_cons_of_mem _ inside)⟩
  case files => simp
  case paths => exact nodup_paths o.name [] .manufacturing nofun _ List.mem_cons_self

theorem sound_rendezvous (s : RendezvousSpec) :
    ∀ x ∈ sitesOf o routes log (.rendezvous s), x.Sound before := by
  refine List.forall_mem_singleton.mpr ?_
  constructor
  case known => simp
  case mounted => exact ⟨_, List.mem_cons_self⟩
  case read => exact ⟨Config.Rendezvous.toYaml, ofText?_rendezvous, placed_rendezvous⟩
  case keys =>
    intro file needed
    obtain ⟨secret, inside⟩ := exists_key file needed
    exact ⟨secret, List.mem_cons_of_mem _ inside⟩
  case files => simp
  case paths => exact nodup_paths o.name [] .rendezvous nofun _ List.mem_cons_self

/-! ### Files for devices -/

/-- What comes before the first slash is told by the whole. -/
theorem eq_of_isPrefixOf {a b rest : List Char} (plain : '/' ∉ a) (plain' : '/' ∉ b)
    (starts : (a ++ ['/']).isPrefixOf (b ++ '/' :: rest) = true) : a = b := by
  induction a generalizing b with
  | nil =>
    cases b with
    | nil => rfl
    | cons c b => simp_all [List.isPrefixOf]
  | cons d a ih =>
    cases b with
    | nil => simp_all [List.isPrefixOf]
    | cons c b =>
      simp only [List.cons_append, List.isPrefixOf, Bool.and_eq_true, beq_iff_eq] at starts
      obtain ⟨rfl, later⟩ := starts
      rw [ih (fun member => plain (List.mem_cons_of_mem _ member))
        (fun member => plain' (List.mem_cons_of_mem _ member)) later]

theorem configMap_eq_of_liesBelow {f g : DeviceFile} {key : String}
    (plain : '/' ∉ f.configMap.toList) (plain' : '/' ∉ g.configMap.toList)
    (below : liesBelow g.mountPath (f.mountPath ++ "/" ++ key) = true) :
    g.configMap = f.configMap := by
  unfold liesBelow DeviceFile.mountPath DeviceFile.mountPathOf at below
  rw [List.isPrefixOf_iff_prefix] at below
  simp only [String.toList_append, List.append_assoc, List.prefix_append_right_inj] at below
  rw [← List.isPrefixOf_iff_prefix] at below
  exact String.toList_inj.mp (eq_of_isPrefixOf plain' plain below)

theorem delivers {files : List DeviceFile} (read : filesOf (mapsIn before) = .ok files)
    (plain : ∀ name ∈ mapNames (mapsIn before), '/' ∉ name.toList) (server : String) :
    ∀ f ∈ files, isKeyPath f.sourcePath = false ∧ Delivers before
      (Onboarding.serviceInfoVolume server :: Onboarding.fileVolumes files) f := by
  have plainFile : ∀ f ∈ files, '/' ∉ f.configMap.toList := fun f member =>
    plain _ ((Onboarding.names_filesOf read).mem_iff.mp (List.mem_map_of_mem member))
  intro f member
  obtain ⟨map, listed, held⟩ := Onboarding.exists_map_of_file read f member
  obtain ⟨-, key, -, path⟩ := Onboarding.fileOf_ok held
  obtain ⟨name, inside⟩ := Onboarding.exists_fileVolume member
  have below : liesBelow DeviceFile.filesDirectory f.sourcePath = true := by
    rw [path]
    unfold DeviceFile.mountPath DeviceFile.mountPathOf
    rw [String.append_assoc, String.append_assoc]
    exact liesBelow_append _ _
  have notKey := liesBelow_of_apart keysDirectory below (by decide) (by decide)
  refine ⟨by simp [isKeyPath, notKey], ⟨name, List.mem_cons_of_mem _ inside⟩,
    ⟨map, listed, held⟩, List.forall_mem_cons.mpr ⟨fun below' => ?_, fun v own below' => ?_⟩⟩
  · have apart :
        liesBelow (Onboarding.serviceInfoVolume server).mount.mountPath f.sourcePath = false :=
      liesBelow_of_apart Layout.serviceInfo.directory below (by decide) (by decide)
    rw [apart] at below'
    cases below'
  · rw [path] at below'
    obtain ⟨i, g, member', rfl⟩ := Onboarding.mem_fileVolumes own
    have same := configMap_eq_of_liesBelow (plainFile f member) (plainFile g member') below'
    exact congrArg DeviceFile.mountPathOf same

theorem sound_onboarding {s : OnboardingSpec}
    (passed : Passed (preparation o routes log (.onboarding s)) before)
    (listed : mapsIn log = mapsIn before) (distinct : (mapNames (mapsIn before)).Nodup)
    (plain : ∀ name ∈ mapNames (mapsIn before), '/' ∉ name.toList) :
    ∀ x ∈ sitesOf o routes log (.onboarding s), x.Sound before := by
  obtain ⟨⟨config, ok⟩, files, read⟩ := accepted_onboarding passed
  have found : filesIn (mapsIn log) = files := by
    unfold filesIn
    rw [read]
    rfl
  rw [listed] at read
  have names : (files.map (·.configMap)).Nodup :=
    (Onboarding.names_filesOf read).nodup_iff.mpr distinct
  have paths := nodup_paths o.name files .onboarding fun _ => names
  refine List.forall_mem_cons.mpr ⟨?_, List.forall_mem_singleton.mpr ?_⟩
  · constructor
    case known => simp
    case mounted => exact ⟨_, List.mem_cons_self⟩
    case read =>
      rw [written_of_ok ok]
      exact ⟨config.toYaml, ofText?_onboarding config, placed_onboarding config⟩
    case keys =>
      intro file needed
      obtain ⟨secret, inside⟩ := exists_key file needed
      exact ⟨secret, List.mem_append_right _ inside⟩
    case files => simp
    case paths => exact paths _ List.mem_cons_self
  · have delivered := delivers read plain o.name
    have info : (filesOf (mapsIn log)).map (ServiceInfoConfig.ofSpec s.serviceInfo) =
        .ok (.ofSpec s.serviceInfo files) := by
      rw [listed, read]
      rfl
    have same : (ServiceInfoConfig.ofSpec s.serviceInfo files).files = files := by
      cases s.serviceInfo <;> rfl
    rw [found, written_of_ok info]
    constructor
    case known => simp
    case mounted => exact ⟨_, List.mem_cons_self⟩
    case read =>
      have placed := placed_serviceInfo (.ofSpec s.serviceInfo files)
        (same.symm ▸ fun f member => (delivered f member).1)
      rw [same] at placed
      exact ⟨_, ofText?_serviceInfo _, placed⟩
    case keys => simp
    case files => exact fun f member => (delivered f member).2
    case paths => exact paths _ (List.mem_cons_of_mem _ (List.mem_singleton_self _))

theorem sound_sites (passed : Passed (preparation o routes log s) before)
    (made : log = before ++ after) (distinct : (mapNames (mapsIn before)).Nodup)
    (plain : ∀ name ∈ mapNames (mapsIn before), '/' ∉ name.toList) :
    ∀ x ∈ sitesOf o routes log s, x.Sound before := by
  cases s with
  | manufacturing s => exact sound_manufacturing passed
  | onboarding s => exact sound_onboarding passed (mapsIn_prepared passed made) distinct plain
  | rendezvous s => exact sound_rendezvous s

/-! ## What is there before the deployment -/

theorem supplied (passed : Passed (preparation o routes log s) before)
    (made : log = before ++ after) :
    Supplied o.namespace before (podFor o.name (filesIn (mapsIn log)) s) := by
  have arranged := arranged o.name (filesIn (mapsIn log)) s
  have origin (v : Volume) (member : v ∈ volumesOf (podFor o.name (filesIn (mapsIn log)) s)) :
      Origin o.name (filesIn (mapsIn log)) s.kind v := by
    obtain ⟨g, own, v, held, rfl⟩ := arranged.exists_of_volume member
    exact origin_groupsOf o.name (filesIn (mapsIn log)) s.kind g own v held
  constructor
  case maps =>
    intro v member name source
    cases origin v member with
    | config own =>
      cases source
      rw [← maps_sitesOf o routes log s] at own
      obtain ⟨x, site, rfl⟩ := List.mem_map.mp own
      obtain ⟨a, there⟩ := passed.made (answers_applyConfigMap o.namespace (x.configMap o))
        (applies_iff.mpr ⟨rfl, x, site, rfl⟩)
      exact .inl ⟨_, a, there, rfl⟩
    | file delivering i own =>
      cases source
      have names := names_filesIn passed made delivering
      exact .inr (names.mem_iff.mp (List.mem_map_of_mem own))
    | key => cases source
    | vouchers => cases source
  case vouchers =>
    intro v member named
    cases origin v member with
    | vouchers kept =>
      obtain ⟨c, name, planned⟩ := claims_vouchers o routes log kept
      obtain ⟨_, there⟩ := passed.made (answers_ensureClaim _ _) planned
      exact ⟨c, there, name ▸ rfl⟩
    | config _ apart => simp [apart] at named
    | key apart => simp [apart] at named
    | file _ i _ =>
      rcases named with numbered | ⟨name, source⟩
      · have starts := isFileVolumeName_fileVolumeName i
        rw [show fileVolumeName i = MountedVolume.voucherVolumeName from numbered] at starts
        exact absurd starts (by decide)
      · cases source

/-- For every server and every run that comes to its deployment, provided that the configuration
maps that were listed have different names and these are free of slashes:

- the mounts and the volumes of the pod belong together;
- the configuration maps and the claim that its volumes name are there, applied before or listed;
- each configuration map that was applied before configures a container, which finds all keys and
  files that the configuration names.

The clause on keys is about every path that the configuration gives the container to open. It leaves
out the settings of `copiedPlaces`: their strings are copied from a description, a host or
annotations, and what looks like a path of a key there is a path on a device, or no path at all. -/
theorem pod_references_resolve (run : Runs (apply o routes s) log r)
    (made : log = before ++ ⟨.applyDeployment ns d, answer⟩ :: after)
    (distinct : (mapNames (mapsIn before)).Nodup)
    (plain : ∀ name ∈ mapNames (mapsIn before), '/' ∉ name.toList) :
    ∃ p, podOf d = some p ∧ WellMounted p ∧ Supplied ns before p ∧
      ∀ (place : String) m a, ⟨.applyConfigMap place m, a⟩ ∈ before →
        ∃ c ∈ p.containers, Configures before p c m := by
  obtain ⟨passed, rfl, rfl⟩ := prepared run made
  have arranged := arranged o.name (filesIn (mapsIn log)) s
  have mounted : WellMounted (podFor o.name (filesIn (mapsIn log)) s) :=
    wellMounted_podFor o.name fun delivering =>
      (names_filesIn passed made delivering).nodup_iff.mpr distinct
  refine ⟨podFor o.name (filesIn (mapsIn log)) s, by cases s <;> rfl, mounted,
    supplied passed made, fun place m a applied => ?_⟩
  obtain ⟨rfl, x, site, rfl⟩ := applies_iff.mp (passed.planned _ applied)
  have own : x.volumes ∈ groupsOf o.name (filesIn (mapsIn log)) s.kind := by
    rw [← volumes_sitesOf o routes log s]
    exact List.mem_map_of_mem site
  obtain ⟨c, member, mounts⟩ := arranged.exists_container own
  have sound := sound_sites passed made distinct plain x site
  exact ⟨c, member, sound.configures arranged own mounts⟩

/-- The answers of a cluster that accepts everything and holds some configuration maps. -/
def holding (maps : List ConfigMap) (q : Call) (u : Unit) : q.Answer × Unit :=
  match q with
  | .listConfigMaps .. => ((.ok maps : Except Cluster.Error (List ConfigMap)), u)
  | q => (accepting q, u)

/-- An onboarding server with two files, whose configuration maps have dots in their names. -/
theorem pod_references_resolve_files :
    ∃ log r before d answer after,
      Runs (apply ⟨"fdo", "devices", .onboarding, none⟩ false
        (.onboarding (onboardingAt "owner.example.com"))) log r ∧
      log = before ++ ⟨.applyDeployment "devices" d, answer⟩ :: after ∧
      mapsIn before = [greeting "motd.b", greeting "motd.a"] ∧
      ∃ p, podOf d = some p ∧ WellMounted p ∧ Supplied "devices" before p ∧
        ∀ (place : String) m a, ⟨.applyConfigMap place m, a⟩ ∈ before →
          ∃ c ∈ p.containers, Configures before p c m := by
  have run := Dialogue.run_trace (holding [greeting "motd.b", greeting "motd.a"])
    (apply ⟨"fdo", "devices", .onboarding, none⟩ false
      (.onboarding (onboardingAt "owner.example.com"))).run ()
  obtain ⟨before, d, answer, after, made, maps⟩ : ∃ before d answer after,
      Dialogue.trace (holding [greeting "motd.b", greeting "motd.a"])
        (apply ⟨"fdo", "devices", .onboarding, none⟩ false
          (.onboarding (onboardingAt "owner.example.com"))).run () =
        before ++ ⟨.applyDeployment "devices" d, answer⟩ :: after ∧
      mapsIn before = [greeting "motd.b", greeting "motd.a"] :=
    ⟨[_, _, _, _], _, _, [_], rfl, rfl⟩
  exact ⟨_, _, before, d, answer, after, run, made, maps,
    pod_references_resolve run made (by rw [maps]; decide) (by rw [maps]; decide)⟩

end DeviceOnboard.Reconcile

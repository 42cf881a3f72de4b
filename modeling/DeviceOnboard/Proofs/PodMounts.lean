import DeviceOnboard.Proofs.ConfiguredPaths
import DeviceOnboard.Reconcile.Cycle
import Mathlib.Data.List.Nodup
import Mathlib.Data.List.Perm.Basic

/-!
# The volumes of the pods

A volume and its mount are made together, and the containers of a pod divide the mounts among them.
So the mounts and the volumes of the pod of a server belong together whatever files for devices
there are: their names are different and are names of volumes, and no container mounts two things
in one place.
-/
namespace DeviceOnboard.Reconcile

open DeviceOnboard.Config DeviceOnboard.Kubernetes DeviceOnboard.Server

/-! ## Pods and their mounts -/

/-- The pod that a deployment describes. -/
def podOf (d : Deployment) : Option PodSpec := d.spec.bind (·.template.spec)

def volumesOf (p : PodSpec) : List Volume := p.volumes.getD []

def mountsOf (c : Container) : List VolumeMount := c.volumeMounts.getD []

/-- A container has something mounted at a path: the volume, or the part of it that is given. -/
def Mounts (p : PodSpec) (c : Container) (path : String) (part : Option String)
    (source : VolumeSource) : Prop :=
  ∃ m ∈ mountsOf c, ∃ v ∈ volumesOf p,
    v.name = m.name ∧ v.source = source ∧ m.mountPath = path ∧ m.subPath = part

/-- The characters of the names of volumes. -/
def isVolumeChar (c : Char) : Bool := ('a' ≤ c && c ≤ 'z') || c.isDigit || c == '-'

/-- The mounts and the volumes of a pod belong together. -/
structure WellMounted (p : PodSpec) : Prop where
  distinct : ((volumesOf p).map (·.name)).Nodup
  names : ∀ v ∈ volumesOf p, ∀ c ∈ v.name.toList, isVolumeChar c = true
  /-- Every mount names just one volume. -/
  found : ∀ c ∈ p.containers, ∀ m ∈ mountsOf c,
    ∃ v, (volumesOf p).filter (fun v => v.name == m.name) = [v]
  mounted : ∀ v ∈ volumesOf p, ∃ c ∈ p.containers, ∃ m ∈ mountsOf c, m.name = v.name
  paths : ∀ c ∈ p.containers, ((mountsOf c).map (·.mountPath)).Nodup

/-- In a list of items with different keys just one has a key that is there. -/
theorem filter_key {α : Type} {l : List α} (key : α → String) (distinct : (l.map key).Nodup) {a : α}
    (member : a ∈ l) {p : α → Bool} (own : p a = true)
    (others : ∀ b ∈ l, p b = true → key b = key a) : l.filter p = [a] := by
  induction l with
  | nil => cases member
  | cons b l ih =>
    rw [List.map_cons, List.nodup_cons] at distinct
    obtain ⟨absent, rest⟩ := distinct
    obtain ⟨first, later⟩ := List.forall_mem_cons.mp others
    by_cases same : key b = key a
    · have here : b = a := by
        rcases List.mem_cons.mp member with rfl | later
        · rfl
        · exact absurd (same ▸ List.mem_map_of_mem later) absent
      subst here
      have none : l.filter p = [] := List.filter_eq_nil_iff.mpr fun c inside holds =>
        absent (later c inside holds ▸ List.mem_map_of_mem inside)
      rw [List.filter_cons_of_pos own, none]
    · have skipped : ¬p b := fun holds => same (first holds)
      have inside : a ∈ l := (List.mem_cons.mp member).resolve_left fun h => same (h ▸ rfl)
      rw [List.filter_cons_of_neg skipped, ih rest inside later]

/-! ### Pods made of mounted volumes -/

/-- The pod has a container for each group of mounted volumes, and all of these volumes. -/
structure Arranged (p : PodSpec) (groups : List (List MountedVolume)) : Prop where
  volumes : (volumesOf p).Perm (groups.flatten.map (·.volume))
  mounts : p.containers.map mountsOf = groups.map fun g => g.map (·.mount)
  named : ∀ g ∈ groups, ∀ v ∈ g, v.mount.name = v.volume.name

namespace Arranged

variable {p : PodSpec} {groups : List (List MountedVolume)} {g : List MountedVolume}
  {c : Container} {v : MountedVolume} {m : VolumeMount}

theorem exists_container (h : Arranged p groups) (member : g ∈ groups) :
    ∃ c ∈ p.containers, mountsOf c = g.map (·.mount) := by
  have inside : g.map (·.mount) ∈ p.containers.map mountsOf := by
    rw [h.mounts]
    exact List.mem_map_of_mem member
  exact List.mem_map.mp inside

theorem exists_group (h : Arranged p groups) (member : c ∈ p.containers) :
    ∃ g ∈ groups, mountsOf c = g.map (·.mount) := by
  have inside : mountsOf c ∈ groups.map fun g => g.map (·.mount) := by
    rw [← h.mounts]
    exact List.mem_map_of_mem member
  obtain ⟨g, own, same⟩ := List.mem_map.mp inside
  exact ⟨g, own, same.symm⟩

theorem mem_volumes (h : Arranged p groups) (own : g ∈ groups) (member : v ∈ g) :
    v.volume ∈ volumesOf p :=
  h.volumes.mem_iff.mpr (List.mem_map_of_mem (List.mem_flatten.mpr ⟨g, own, member⟩))

/-- What a volume of the pod stands for. -/
theorem exists_of_volume (h : Arranged p groups) {volume : Volume} (member : volume ∈ volumesOf p) :
    ∃ g ∈ groups, ∃ v ∈ g, v.volume = volume := by
  obtain ⟨v, inside, same⟩ := List.mem_map.mp (h.volumes.mem_iff.mp member)
  obtain ⟨g, own, held⟩ := List.mem_flatten.mp inside
  exact ⟨g, own, v, held, same⟩

theorem wellMounted (h : Arranged p groups)
    (distinct : (groups.flatten.map (·.volume.name)).Nodup)
    (names : ∀ g ∈ groups, ∀ v ∈ g, ∀ c ∈ v.volume.name.toList, isVolumeChar c = true)
    (paths : ∀ g ∈ groups, (g.map (·.mount.mountPath)).Nodup) : WellMounted p where
  distinct := by
    have same := h.volumes.map (·.name)
    rw [List.map_map] at same
    exact same.nodup_iff.mpr distinct
  names := by
    intro volume member
    obtain ⟨g, own, v, held, rfl⟩ := h.exists_of_volume member
    exact names g own v held
  found := by
    intro c member m mounted
    obtain ⟨g, own, mounts⟩ := h.exists_group member
    rw [mounts] at mounted
    obtain ⟨v, held, rfl⟩ := List.mem_map.mp mounted
    have same := h.volumes.map (·.name)
    rw [List.map_map] at same
    refine ⟨v.volume,
      filter_key (·.name) (same.nodup_iff.mpr distinct) (h.mem_volumes own held) ?_ ?_⟩
    · simp [h.named g own v held]
    · simp [h.named g own v held]
  mounted := by
    intro volume member
    obtain ⟨g, own, v, held, rfl⟩ := h.exists_of_volume member
    obtain ⟨c, inside, mounts⟩ := h.exists_container own
    refine ⟨c, inside, v.mount, ?_, h.named g own v held⟩
    rw [mounts]
    exact List.mem_map_of_mem held
  paths := by
    intro c member
    obtain ⟨g, own, mounts⟩ := h.exists_group member
    rw [mounts, List.map_map]
    exact paths g own

theorem mounts_of_mem (h : Arranged p groups) (own : g ∈ groups)
    (mounts : mountsOf c = g.map (·.mount)) (member : v ∈ g) :
    Mounts p c v.mount.mountPath v.mount.subPath v.volume.source := by
  refine ⟨v.mount, ?_, v.volume, h.mem_volumes own member, (h.named g own v member).symm, rfl, rfl,
    rfl⟩
  rw [mounts]
  exact List.mem_map_of_mem member

end Arranged

/-! ### The pods of the servers -/

/-- The mounted volumes of a server, by its containers. -/
def groupsOf (server : String) (files : List DeviceFile) : Kind → List (List MountedVolume)
  | .manufacturing => [Manufacturing.volumes server]
  | .onboarding =>
    [Onboarding.ownVolumes server ++ Onboarding.keyVolumes,
      Onboarding.serviceInfoVolume server :: Onboarding.fileVolumes files]
  | .rendezvous => [Rendezvous.volumes server]

/-- The pod of a server. -/
def podFor (server : String) (files : List DeviceFile) : Spec → PodSpec
  | .manufacturing s => securePod (Manufacturing.pod server s)
  | .onboarding s => securePod (Onboarding.pod server s files)
  | .rendezvous s => securePod (Rendezvous.pod server s)

/-- The name of the volume of a file, by its place among the files. -/
def fileVolumeName (i : Nat) : String := "serviceinfo-file-" ++ toString i

namespace Onboarding

variable {files : List DeviceFile} {v : MountedVolume}

theorem mem_fileVolumes (member : v ∈ fileVolumes files) : ∃ i : Nat, ∃ f ∈ files,
    v = .ofConfigMap (fileVolumeName i) f.configMap f.mountPath := by
  obtain ⟨i, bound, rfl⟩ := List.mem_mapIdx.mp member
  exact ⟨i, _, List.getElem_mem bound, rfl⟩

theorem exists_fileVolume {f : DeviceFile} (member : f ∈ files) :
    ∃ name, MountedVolume.ofConfigMap name f.configMap f.mountPath ∈ fileVolumes files := by
  obtain ⟨i, bound, rfl⟩ := List.mem_iff_getElem.mp member
  exact ⟨_, List.mem_mapIdx.mpr ⟨i, bound, rfl⟩⟩

theorem mount_name_fileVolumes : ∀ v ∈ fileVolumes files, v.mount.name = v.volume.name := by
  intro v member
  obtain ⟨i, f, -, rfl⟩ := mem_fileVolumes member
  rfl

theorem names_fileVolumes (files : List DeviceFile) : (fileVolumes files).map (·.volume.name) =
    (List.range files.length).map fileVolumeName := by
  refine List.ext_getElem (by simp [fileVolumes]) fun i _ _ => ?_
  simp only [fileVolumes, List.getElem_map, List.getElem_mapIdx, List.getElem_range]
  rfl

theorem paths_fileVolumes (files : List DeviceFile) :
    (fileVolumes files).map (·.mount.mountPath) = files.map (·.mountPath) := by
  refine List.ext_getElem (by simp [fileVolumes]) fun i _ _ => ?_
  simp [fileVolumes, MountedVolume.ofConfigMap]

end Onboarding

theorem arranged (server : String) (files : List DeviceFile) (s : Spec) :
    Arranged (podFor server files s) (groupsOf server files s.kind) where
  volumes := by
    cases s with
    | manufacturing s => simp [podFor, groupsOf, securePod, Manufacturing.pod, volumesOf, Spec.kind]
    | rendezvous s => simp [podFor, groupsOf, securePod, Rendezvous.pod, volumesOf, Spec.kind]
    | onboarding s =>
      show (List.map MountedVolume.volume _).Perm (List.map MountedVolume.volume _)
      refine List.Perm.map _ ?_
      simp only [groupsOf, Spec.kind, List.append_assoc, List.cons_append, List.flatten_cons,
        List.flatten_nil, List.append_nil]
      exact List.perm_middle.symm.append_left _
  mounts := by
    cases s <;> rfl
  named := by
    cases s with
    | manufacturing s =>
      simp [groupsOf, Spec.kind, Manufacturing.volumes, MountedVolume.ofConfigMap,
        MountedVolume.ofKey, MountedVolume.vouchers]
    | rendezvous s =>
      simp [groupsOf, Spec.kind, Rendezvous.volumes, MountedVolume.ofConfigMap,
        MountedVolume.ofKey]
    | onboarding s =>
      simpa [groupsOf, Spec.kind, Onboarding.ownVolumes, Onboarding.keyVolumes,
        Onboarding.serviceInfoVolume, MountedVolume.ofConfigMap, MountedVolume.ofKey,
        MountedVolume.vouchers] using Onboarding.mount_name_fileVolumes

/-! ### Names and paths -/

theorem fileVolumeName_injective : Function.Injective fileVolumeName := by
  intro m n same
  have numbers : toString m = toString n := (String.append_right_inj _).mp same
  have value := congrArg (fun s => Nat.ofDigitChars 10 s.toList 0) numbers
  simpa [Nat.toString_eq_ofList_toDigits] using value

/-- The names of the volumes of files can be told from others by how they begin. -/
def isFileVolumeName (name : String) : Bool :=
  "serviceinfo-file-".toList.isPrefixOf name.toList

theorem isFileVolumeName_fileVolumeName (i : Nat) : isFileVolumeName (fileVolumeName i) = true :=
  List.isPrefixOf_iff_prefix.mpr ⟨(toString i).toList, String.toList_append.symm⟩

theorem isVolumeChar_fileVolumeName (i : Nat) :
    ∀ c ∈ (fileVolumeName i).toList, isVolumeChar c = true := by
  intro c member
  unfold fileVolumeName at member
  rw [String.toList_append, List.mem_append] at member
  rcases member with fixed | digit
  · have plain : "serviceinfo-file-".toList.all isVolumeChar = true := rfl
    exact List.all_eq_true.mp plain c fixed
  · rw [Nat.toString_eq_ofList_toDigits, String.toList_ofList] at digit
    have isDigit : c.isDigit = true := Nat.isDigit_of_mem_toDigits (by omega) (by omega) digit
    simp [isVolumeChar, isDigit]

/-- The volumes that a server has without files for devices. -/
def fixedVolumes (kind : Kind) : List MountedVolume := (groupsOf "" [] kind).flatten

theorem names_groupsOf (server : String) (files : List DeviceFile) (kind : Kind) :
    ∃ count, (groupsOf server files kind).flatten.map (·.volume.name) =
      (fixedVolumes kind).map (·.volume.name) ++ (List.range count).map fileVolumeName := by
  cases kind with
  | manufacturing => exact ⟨0, rfl⟩
  | rendezvous => exact ⟨0, rfl⟩
  | onboarding =>
    refine ⟨files.length, ?_⟩
    rw [← Onboarding.names_fileVolumes]
    simp only [groupsOf, List.flatten_cons, List.flatten_nil, List.append_nil, List.map_append,
      List.map_cons]
    rfl

theorem nodup_names (server : String) (files : List DeviceFile) (kind : Kind) :
    ((groupsOf server files kind).flatten.map (·.volume.name)).Nodup := by
  obtain ⟨count, names⟩ := names_groupsOf server files kind
  rw [names]
  have fixed : ((fixedVolumes kind).map (·.volume.name)).Nodup := by
    cases kind <;> decide
  have unnumbered : ∀ name ∈ (fixedVolumes kind).map (·.volume.name),
      isFileVolumeName name = false := by
    cases kind <;> decide
  refine fixed.append (List.nodup_range.map fileVolumeName_injective) ?_
  intro name inFixed numbered
  obtain ⟨i, -, rfl⟩ := List.mem_map.mp numbered
  have bare := unnumbered _ inFixed
  rw [isFileVolumeName_fileVolumeName] at bare
  cases bare

theorem names_plain (server : String) (files : List DeviceFile) (kind : Kind) :
    ∀ g ∈ groupsOf server files kind, ∀ v ∈ g, ∀ c ∈ v.volume.name.toList,
      isVolumeChar c = true := by
  intro g own v held
  obtain ⟨count, names⟩ := names_groupsOf server files kind
  have fixed : ((fixedVolumes kind).map (·.volume.name)).all
      (fun name => name.toList.all isVolumeChar) = true := by
    cases kind <;> rfl
  have named : v.volume.name ∈ (groupsOf server files kind).flatten.map (·.volume.name) :=
    List.mem_map.mpr ⟨v, List.mem_flatten.mpr ⟨g, own, held⟩, rfl⟩
  rw [names, List.mem_append] at named
  rcases named with inFixed | numbered
  · exact List.all_eq_true.mp (List.all_eq_true.mp fixed _ inFixed)
  · obtain ⟨i, -, same⟩ := List.mem_map.mp numbered
    rw [← same]
    exact isVolumeChar_fileVolumeName i

theorem liesBelow_mountPath (f : DeviceFile) :
    liesBelow DeviceFile.filesDirectory f.mountPath = true :=
  liesBelow_append _ _

theorem nodup_paths (server : String) (files : List DeviceFile) (kind : Kind)
    (distinct : kind = .onboarding → (files.map (·.configMap)).Nodup) :
    ∀ g ∈ groupsOf server files kind, (g.map (·.mount.mountPath)).Nodup := by
  cases kind with
  | manufacturing =>
    refine List.forall_mem_singleton.mpr ?_
    show ((Manufacturing.volumes "").map (·.mount.mountPath)).Nodup
    decide
  | rendezvous =>
    refine List.forall_mem_singleton.mpr ?_
    show ((Rendezvous.volumes "").map (·.mount.mountPath)).Nodup
    decide
  | onboarding =>
    refine List.forall_mem_cons.mpr ⟨?_, List.forall_mem_singleton.mpr ?_⟩
    · show ((Onboarding.ownVolumes "" ++ Onboarding.keyVolumes).map (·.mount.mountPath)).Nodup
      decide
    · show (Layout.serviceInfo.directory ::
        (Onboarding.fileVolumes files).map (·.mount.mountPath)).Nodup
      rw [Onboarding.paths_fileVolumes, List.nodup_cons]
      constructor
      · intro member
        obtain ⟨f, -, same⟩ := List.mem_map.mp member
        exact absurd (same ▸ liesBelow_mountPath f) (by decide)
      · have names := List.pairwise_map.mp (distinct rfl)
        refine List.pairwise_map.mpr (names.imp fun other same => other ?_)
        exact (String.append_right_inj _).mp same

/-- The mounts and the volumes of the pod of every server belong together. -/
theorem wellMounted_podFor (server : String) {files : List DeviceFile} {s : Spec}
    (distinct : s.kind = .onboarding → (files.map (·.configMap)).Nodup) :
    WellMounted (podFor server files s) :=
  (arranged server files s).wellMounted (nodup_names server files s.kind)
    (names_plain server files s.kind) (nodup_paths server files s.kind distinct)

/-! ### Files for devices -/

/-- A pod has files for devices: for each of them, in their order, a volume with its configuration
map, which the container for service information mounts for reading into the directory of the file.
There are no other volumes and mounts for files. -/
structure HasFiles (p : PodSpec) (files : List DeviceFile) : Prop where
  volumes : (volumesOf p).filter (fun v => isFileVolumeName v.name) =
    files.mapIdx fun i f => ⟨fileVolumeName i, .configMap f.configMap⟩
  mounts : p.containers.map (fun c =>
      (c.name, (mountsOf c).filter fun m => isFileVolumeName m.name)) =
    [("owner-onboarding", []), ("serviceinfo-api", files.mapIdx fun i f =>
      { name := fileVolumeName i, mountPath := DeviceFile.filesDirectory ++ "/" ++ f.configMap,
        readOnly := some true })]

namespace Onboarding

/-- The volumes of files are told from others by their names. -/
theorem filter_others {others : List MountedVolume}
    (apart : ∀ name ∈ others.map (·.volume.name), isFileVolumeName name = false) :
    (others.filter fun v => isFileVolumeName v.volume.name) = [] :=
  List.filter_eq_nil_iff.mpr fun v member => by simp [apart _ (List.mem_map_of_mem member)]

theorem filter_fileVolumes {others : List MountedVolume}
    (apart : ∀ name ∈ others.map (·.volume.name), isFileVolumeName name = false) :
    ((others ++ fileVolumes files).filter fun v => isFileVolumeName v.volume.name) =
      fileVolumes files := by
  rw [List.filter_append, filter_others apart, List.nil_append, List.filter_eq_self]
  intro v member
  obtain ⟨i, f, -, rfl⟩ := mem_fileVolumes member
  exact isFileVolumeName_fileVolumeName i

theorem filter_mounts {volumes : List MountedVolume}
    (named : ∀ v ∈ volumes, v.mount.name = v.volume.name) :
    (volumes.map (·.mount)).filter (fun m => isFileVolumeName m.name) =
      (volumes.filter fun v => isFileVolumeName v.volume.name).map (·.mount) := by
  rw [List.filter_map]
  exact congrArg _ (List.filter_congr fun v member => congrArg isFileVolumeName (named v member))

theorem map_fileVolumes {α : Type} (part : MountedVolume → α) (files : List DeviceFile) :
    (fileVolumes files).map part = files.mapIdx fun i f =>
      part (.ofConfigMap (fileVolumeName i) f.configMap f.mountPath) :=
  List.ext_getElem (by simp [fileVolumes]) fun i _ _ => by simp [fileVolumes, fileVolumeName]

theorem hasFiles_pod (server : String) (s : OnboardingSpec) (files : List DeviceFile) :
    HasFiles (podFor server files (.onboarding s)) files where
  volumes := by
    have apart : ∀ name ∈ (ownVolumes server ++ serviceInfoVolume server :: keyVolumes).map
        (·.volume.name), isFileVolumeName name = false := by
      show ∀ name ∈ (ownVolumes "" ++ serviceInfoVolume "" :: keyVolumes).map (·.volume.name), _
      decide
    show ((ownVolumes server ++ serviceInfoVolume server :: keyVolumes ++
      fileVolumes files).map (·.volume)).filter _ = _
    rw [List.filter_map]
    exact (congrArg _ (filter_fileVolumes apart)).trans (map_fileVolumes _ files)
  mounts := by
    have named := (arranged server files (.onboarding s)).named
    have own : ∀ name ∈ (ownVolumes server ++ keyVolumes).map (·.volume.name),
        isFileVolumeName name = false := by
      show ∀ name ∈ (ownVolumes "" ++ keyVolumes).map (·.volume.name), _
      decide
    have info : ∀ name ∈ [serviceInfoVolume server].map (·.volume.name),
        isFileVolumeName name = false := by
      show ∀ name ∈ [serviceInfoVolume ""].map (·.volume.name), _
      decide
    have ofFiles : (serviceInfoVolume server :: fileVolumes files).filter
        (fun v => isFileVolumeName v.volume.name) = fileVolumes files := filter_fileVolumes info
    show [("owner-onboarding", ((ownVolumes server ++ keyVolumes).map (·.mount)).filter _),
      ("serviceinfo-api",
        ((serviceInfoVolume server :: fileVolumes files).map (·.mount)).filter _)] = _
    rw [filter_mounts (named _ List.mem_cons_self), filter_others own,
      filter_mounts (named _ (List.mem_cons_of_mem _ List.mem_cons_self)), ofFiles, map_fileVolumes]
    rfl

end Onboarding

end DeviceOnboard.Reconcile

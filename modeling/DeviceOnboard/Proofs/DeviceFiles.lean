import DeviceOnboard.Proofs.AdmissionAnswers
import DeviceOnboard.Reconcile.Onboarding
import Mathlib.Data.List.Nodup

/-!
# The files of configuration maps

What the list of files for devices owes to the configuration maps that it is made from: each map
gives one file, which lies below the directory of the map, and the files are in the order of the
names. So for maps with different names the list does not depend on the order of the maps.
-/
namespace DeviceOnboard.Reconcile.Onboarding

open DeviceOnboard.Admission DeviceOnboard.Config DeviceOnboard.Kubernetes

/-! ## One file -/

variable {m : ConfigMap} {maps maps' : List ConfigMap} {f : DeviceFile} {files : List DeviceFile}

/-- A file bears the name of its map, and lies in the directory of the map under one of its keys. -/
theorem fileOf_ok (h : fileOf m = .ok f) : f.configMap = m.metadata.nameOrStem ∧
    ∃ key ∈ m.keys, f.sourcePath = f.mountPath ++ "/" ++ key := by
  unfold fileOf DeviceFile.ofConfigMap at h
  split at h
  · split at h
    · rename_i held
      cases h
      exact ⟨rfl, _, by simpa using held, rfl⟩
    · cases h
  · cases h

/-- A configuration map with a text that is put on devices. -/
def greeting (name : String) : ConfigMap where
  metadata :=
    { name := some name
      annotations := some (.ofList
        [(DeviceFile.nameAnnotation, "motd"), (DeviceFile.pathAnnotation, "/etc/motd")]) }
  data := some (.ofList [("motd", "welcome")])

example : fileOf (greeting "motd.a") =
    .ok ⟨"motd.a", "/etc/motd", none, "/etc/fdo/files/motd.a/motd"⟩ := rfl

/-! ## All files -/

/-- The names of configuration maps. -/
def mapNames (maps : List ConfigMap) : List String := maps.map fun m => m.metadata.nameOrStem

/-- The files of the configuration maps that hold one, in their order. -/
def heldFiles (maps : List ConfigMap) : List DeviceFile :=
  maps.filterMap fun m => (fileOf m).toOption

theorem mapM_fileOf (valid : ∀ m ∈ maps, ∃ f, fileOf m = .ok f) :
    maps.mapM fileOf = .ok (heldFiles maps) := by
  induction maps with
  | nil => rfl
  | cons m maps ih =>
    obtain ⟨⟨f, first⟩, rest⟩ := List.forall_mem_cons.mp valid
    rw [List.mapM_cons, ih rest, first]
    simp [heldFiles, first, Except.toOption, bind, Except.bind, pure, Except.pure]

/-- The files can be read exactly if every map holds one. -/
theorem filesOf_ok_iff : filesOf maps = .ok files ↔
    (∀ m ∈ maps, ∃ f, fileOf m = .ok f) ∧ files = DeviceFile.sort (heldFiles maps) := by
  unfold filesOf
  constructor
  · intro h
    cases found : maps.mapM fileOf with
    | error e => simp [found, Except.map] at h
    | ok fs =>
      have valid := exists_mapM_ok_iff.mp ⟨fs, found⟩
      rw [mapM_fileOf valid] at h
      exact ⟨valid, (Except.ok.inj h).symm⟩
  · rintro ⟨valid, rfl⟩
    rw [mapM_fileOf valid]
    rfl

theorem names_heldFiles (valid : ∀ m ∈ maps, ∃ f, fileOf m = .ok f) :
    (heldFiles maps).map (·.configMap) = mapNames maps := by
  induction maps with
  | nil => rfl
  | cons m maps ih =>
    obtain ⟨⟨f, first⟩, rest⟩ := List.forall_mem_cons.mp valid
    have others := ih rest
    unfold heldFiles mapNames at others ⊢
    rw [List.filterMap_cons, first, List.map_cons, ← others, ← (fileOf_ok first).1]
    rfl

theorem sort_perm (found : List DeviceFile) : (DeviceFile.sort found).Perm found :=
  List.mergeSort_perm ..

section

variable {α : Type} (key : α → String)

theorem key_le_trans (a b c : α) (h : decide (key a ≤ key b)) (h' : decide (key b ≤ key c)) :
    decide (key a ≤ key c) :=
  decide_eq_true (String.le_trans (of_decide_eq_true h) (of_decide_eq_true h'))

theorem key_le_total (a b : α) : decide (key a ≤ key b) || decide (key b ≤ key a) := by
  simpa using String.le_total (key a) (key b)

/-- Items that are sorted by their keys are in the order of the keys. -/
theorem pairwise_sort (l : List α) :
    (l.mergeSort fun a b => decide (key a ≤ key b)).Pairwise fun a b => key a ≤ key b :=
  (List.pairwise_mergeSort (key_le_trans key) (key_le_total key) l).imp of_decide_eq_true

end

theorem sort_sorted (found : List DeviceFile) :
    (DeviceFile.sort found).Pairwise fun f g => f.configMap ≤ g.configMap :=
  pairwise_sort (·.configMap) found

variable (read : filesOf maps = .ok files)
include read

/-- There is just one file for each name of a map. -/
theorem names_filesOf : (files.map (·.configMap)).Perm (mapNames maps) := by
  obtain ⟨valid, rfl⟩ := filesOf_ok_iff.mp read
  rw [← names_heldFiles valid]
  exact (sort_perm _).map _

theorem exists_map_of_file : ∀ f ∈ files, ∃ m ∈ maps, fileOf m = .ok f := by
  intro f member
  obtain ⟨valid, rfl⟩ := filesOf_ok_iff.mp read
  obtain ⟨m, listed, held⟩ := List.mem_filterMap.mp ((sort_perm _).mem_iff.mp member)
  obtain ⟨g, same⟩ := valid m listed
  rw [same] at held
  exact ⟨m, listed, same.trans (congrArg Except.ok (Option.some.inj held))⟩

/-- The files of maps with different names are in ascending order of the names. -/
theorem ascending_filesOf (distinct : (mapNames maps).Nodup) :
    files.Pairwise fun f g => f.configMap < g.configMap := by
  have names : (files.map (·.configMap)).Nodup := (names_filesOf read).nodup_iff.mpr distinct
  obtain ⟨-, rfl⟩ := filesOf_ok_iff.mp read
  have apart := List.pairwise_map.mp names
  exact ((sort_sorted _).and apart).imp fun ⟨before, other⟩ => Std.lt_of_le_of_ne before other

/-- Maps in another order give the same files. -/
theorem filesOf_perm (distinct : (mapNames maps).Nodup) (same : maps.Perm maps') :
    filesOf maps' = .ok files := by
  have names : (files.map (·.configMap)).Nodup := (names_filesOf read).nodup_iff.mpr distinct
  obtain ⟨valid, rfl⟩ := filesOf_ok_iff.mp read
  refine filesOf_ok_iff.mpr ⟨fun m member => valid m (same.mem_iff.mpr member), ?_⟩
  have files : (heldFiles maps).Perm (heldFiles maps') := same.filterMap _
  refine List.Perm.eq_of_pairwise ?_ (sort_sorted _) (sort_sorted _)
    ((sort_perm _).trans (files.trans (sort_perm _).symm))
  intro f g first second before after
  have inFirst : g ∈ DeviceFile.sort (heldFiles maps) :=
    (sort_perm _).mem_iff.mpr (files.mem_iff.mpr ((sort_perm _).mem_iff.mp second))
  exact List.inj_on_of_nodup_map names first inFirst (String.le_antisymm before after)

end DeviceOnboard.Reconcile.Onboarding

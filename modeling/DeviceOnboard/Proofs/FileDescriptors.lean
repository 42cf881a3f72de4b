import DeviceOnboard.Proofs.DialogueAgreement
import DeviceOnboard.Proofs.ListedFiles
import DeviceOnboard.Proofs.TrimmedText

/-!
# Which configuration maps hold a file

A configuration map holds a file for devices if its annotations name the file and its path, and the
file stands under one of its keys. Of the annotations only three count, and of each of them only
what it holds between blanks; of the keys only which there are. A list of maps gives the files of
all of them in the order of the names, or the error of the first one that holds no file.
-/
namespace DeviceOnboard

/-! ## One file -/

namespace Text

/-- Two fields hold the same text between blanks, or none of them holds any. -/
def SameContents (field field' : Option String) : Prop := ∀ t, Holds field t ↔ Holds field' t

theorem sameContents_iff {field field' : Option String} :
    SameContents field field' ↔ field? field = field? field' := by
  rw [Option.ext_iff]
  simp only [field?_eq_some_iff, SameContents]

end Text

namespace Config.DeviceFile

open DeviceOnboard.Text

/-- What a configuration map comes to, with what its annotations say and the keys that it has. -/
inductive Yields (configMap : String) (value? : String → Option String)
    (hasKey : String → Prop) : Except Error DeviceFile → Prop where
  | incomplete (unset : Unset (value? nameAnnotation) ∨ Unset (value? pathAnnotation)) :
      Yields configMap value? hasKey (.error (.incompleteFile configMap))
  | missing {file path : String} (named : Holds (value? nameAnnotation) file)
      (placed : Holds (value? pathAnnotation) path) (absent : ¬hasKey file) :
      Yields configMap value? hasKey (.error (.missingFileData configMap file))
  | held {f : DeviceFile} {file : String} (origin : f.configMap = configMap)
      (named : Holds (value? nameAnnotation) file) (present : hasKey file)
      (placed : Holds (value? pathAnnotation) f.path)
      (granted : ∀ p, f.permissions = some p ↔ Holds (value? permissionsAnnotation) p)
      (source : f.sourcePath = f.mountPath ++ "/" ++ file) :
      Yields configMap value? hasKey (.ok f)

/-- The annotations that describe a file. -/
def fileAnnotations : List String := [ nameAnnotation, pathAnnotation, permissionsAnnotation ]

section

variable {configMap : String} {annotations annotations' : Dictionary String}
  {keys keys' : List String} {r : Except Error DeviceFile}

theorem yields_ofConfigMap (configMap : String) (annotations : Dictionary String)
    (keys : List String) : Yields configMap annotations.find? (· ∈ keys)
      (ofConfigMap configMap annotations keys) := by
  unfold ofConfigMap
  split
  · rename_i file path named placed
    split
    · rename_i present
      exact .held rfl (field?_eq_some_iff.mp named) (by simpa using present)
        (field?_eq_some_iff.mp placed) (fun p => field?_eq_some_iff) rfl
    · rename_i absent
      exact .missing (field?_eq_some_iff.mp named) (field?_eq_some_iff.mp placed)
        (by simpa using absent)
  · rename_i unset
    refine .incomplete ?_
    rw [← field?_eq_none_iff, ← field?_eq_none_iff]
    cases named : field? (annotations.find? nameAnnotation) with
    | none => exact .inl rfl
    | some file =>
      cases placed : field? (annotations.find? pathAnnotation) with
      | none => exact .inr rfl
      | some path => exact absurd placed (unset file path named)

theorem ofConfigMap_of_yields (h : Yields configMap annotations.find? (· ∈ keys) r) :
    ofConfigMap configMap annotations keys = r := by
  unfold ofConfigMap
  cases h with
  | incomplete unset =>
    rw [← field?_eq_none_iff, ← field?_eq_none_iff] at unset
    rcases unset with unset | unset
    · rw [unset]
    · rw [unset]
      cases field? (annotations.find? nameAnnotation) <;> rfl
  | missing named placed absent =>
    simp [field?_eq_some_iff.mpr named, field?_eq_some_iff.mpr placed, absent]
  | @held f file origin named present placed granted source =>
    have permissions : field? (annotations.find? permissionsAnnotation) = f.permissions :=
      Option.ext fun p => by rw [field?_eq_some_iff, ← granted p]
    subst origin
    have below : mountPathOf f.configMap ++ "/" ++ file = f.sourcePath := source.symm
    simp only [field?_eq_some_iff.mpr named, field?_eq_some_iff.mpr placed, permissions, below]
    exact if_pos (List.contains_iff_mem.mpr present)

theorem ofConfigMap_eq_iff : ofConfigMap configMap annotations keys = r ↔
    Yields configMap annotations.find? (· ∈ keys) r :=
  ⟨fun h => h ▸ yields_ofConfigMap configMap annotations keys, ofConfigMap_of_yields⟩

/-- Nothing counts but the contents of three annotations and which keys there are. -/
theorem ofConfigMap_congr
    (same : ∀ a ∈ fileAnnotations, SameContents (annotations.find? a) (annotations'.find? a))
    (sameKeys : ∀ key, key ∈ keys ↔ key ∈ keys') :
    ofConfigMap configMap annotations keys = ofConfigMap configMap annotations' keys' := by
  have contains (file : String) : keys.contains file = keys'.contains file := by
    rw [Bool.eq_iff_iff, List.contains_iff_mem, List.contains_iff_mem, sameKeys]
  unfold ofConfigMap
  rw [sameContents_iff.mp (same nameAnnotation (by simp [fileAnnotations])),
    sameContents_iff.mp (same pathAnnotation (by simp [fileAnnotations])),
    sameContents_iff.mp (same permissionsAnnotation (by simp [fileAnnotations]))]
  simp only [contains]

end

end Config.DeviceFile

namespace Kubernetes

/-- The value of an annotation of a configuration map. -/
def ConfigMap.annotated? (m : ConfigMap) (key : String) : Option String :=
  m.metadata.annotations.bind (·.find? key)

/-- A text or bytes stand under the key. -/
def ConfigMap.HasKey (m : ConfigMap) (key : String) : Prop :=
  (∃ d ∈ m.data, key ∈ d.keys) ∨ ∃ d ∈ m.binaryData, key ∈ d.keys

theorem ConfigMap.mem_keys_iff {m : ConfigMap} {key : String} : key ∈ m.keys ↔ m.HasKey key := by
  have values (d : Option (Dictionary String)) :
      key ∈ (d.map Dictionary.keys).getD [] ↔ ∃ e ∈ d, key ∈ e.keys := by
    cases d <;> simp
  rw [keys, List.mem_append, values, values, HasKey]

theorem ConfigMap.find?_annotations (m : ConfigMap) (key : String) :
    (m.metadata.annotations.getD .empty).find? key = m.annotated? key := by
  unfold annotated?
  cases m.metadata.annotations <;> rfl

end Kubernetes

namespace Reconcile.Onboarding

open DeviceOnboard.Cluster DeviceOnboard.Config DeviceOnboard.Config.DeviceFile
open DeviceOnboard.Dialogue DeviceOnboard.Kubernetes DeviceOnboard.Server DeviceOnboard.Text

/-- What a configuration map comes to. -/
def Offers (m : ConfigMap) : Except Config.Error DeviceFile → Prop :=
  Yields m.metadata.nameOrStem m.annotated? m.HasKey

theorem fileOf_eq_iff (m : ConfigMap) (r : Except Config.Error DeviceFile) :
    fileOf m = r ↔ Offers m r := by
  have annotations : (m.metadata.annotations.getD .empty).find? = m.annotated? :=
    funext m.find?_annotations
  have keys : (fun key => key ∈ m.keys) = m.HasKey := funext fun _ => propext m.mem_keys_iff
  rw [fileOf, ofConfigMap_eq_iff, annotations, keys, Offers]

theorem fileOf_congr {m m' : ConfigMap} (name : m.metadata.nameOrStem = m'.metadata.nameOrStem)
    (same : ∀ a ∈ fileAnnotations, SameContents (m.annotated? a) (m'.annotated? a))
    (sameKeys : ∀ key, m.HasKey key ↔ m'.HasKey key) : fileOf m = fileOf m' := by
  rw [fileOf, fileOf, name]
  refine ofConfigMap_congr (fun a member => ?_) fun key => ?_
  · rw [m.find?_annotations, m'.find?_annotations]
    exact same a member
  · rw [m.mem_keys_iff, m'.mem_keys_iff]
    exact sameKeys key

/-! ## All files -/

/-- A list in the order of its keys. Items with one key stay in the order that they had. -/
structure SortedBy {α : Type} (key : α → String) (found sorted : List α) : Prop where
  perm : sorted.Perm found
  ascending : sorted.Pairwise fun a b => key a ≤ key b
  stable : ∀ k, sorted.filter (fun a => key a == k) = found.filter fun a => key a == k

/-- A sorted list is known by its items with each key. -/
theorem eq_of_filter_eq {α : Type} {key : α → String} {l l' : List α}
    (sorted : l.Pairwise fun a b => key a ≤ key b) (sorted' : l'.Pairwise fun a b => key a ≤ key b)
    (same : ∀ k, l.filter (fun a => key a == k) = l'.filter fun a => key a == k) : l = l' := by
  induction l generalizing l' with
  | nil =>
    cases l' with
    | nil => rfl
    | cons b l' => simpa using same (key b)
  | cons a l ih =>
    cases l' with
    | nil => simpa using same (key a)
    | cons b l' =>
      obtain ⟨least, rest⟩ := List.pairwise_cons.mp sorted
      obtain ⟨least', rest'⟩ := List.pairwise_cons.mp sorted'
      have members (c : α) : c ∈ a :: l ↔ c ∈ b :: l' := by
        simpa using congrArg (c ∈ ·) (same (key c))
      -- each of the two heads stands in the other list, so their keys are equal
      have le : key a ≤ key b := by
        rcases List.mem_cons.mp ((members b).mpr List.mem_cons_self) with rfl | later
        · exact String.le_refl _
        · exact least b later
      have ge : key b ≤ key a := by
        rcases List.mem_cons.mp ((members a).mp List.mem_cons_self) with rfl | later
        · exact String.le_refl _
        · exact least' a later
      have heads := same (key a)
      rw [List.filter_cons_of_pos (by simp),
        List.filter_cons_of_pos (by simp [String.le_antisymm le ge])] at heads
      obtain ⟨rfl, -⟩ := List.cons.inj heads
      have tails (k : String) :
          l.filter (fun c => key c == k) = l'.filter fun c => key c == k := by
        have both := same k
        rw [List.filter_cons, List.filter_cons] at both
        split at both
        · exact (List.cons.inj both).2
        · exact both
      rw [ih rest rest' tails]

/-- There is just one such order. -/
theorem SortedBy.unique {α : Type} {key : α → String} {found l l' : List α}
    (h : SortedBy key found l) (h' : SortedBy key found l') : l = l' :=
  eq_of_filter_eq h.ascending h'.ascending fun k => (h.stable k).trans (h'.stable k).symm

theorem sortedBy_sort (found : List DeviceFile) :
    SortedBy (·.configMap) found (DeviceFile.sort found) := by
  refine ⟨sort_perm found, sort_sorted found, fun k => ?_⟩
  obtain ⟨p, hp⟩ : ∃ p : DeviceFile → Bool, p = fun f => f.configMap == k := ⟨_, rfl⟩
  rw [← hp]
  have equal : (found.filter p).Pairwise fun f g => decide (f.configMap ≤ g.configMap) = true := by
    refine List.pairwise_of_forall_mem_list fun f first g second => ?_
    have keys : f.configMap = k ∧ g.configMap = k := by
      simpa [hp] using And.intro (List.mem_filter.mp first).2 (List.mem_filter.mp second).2
    simp [keys]
  have kept : (found.filter p).Sublist (DeviceFile.sort found) :=
    List.sublist_mergeSort (key_le_trans _) (key_le_total _) equal List.filter_sublist
  have kept' : (found.filter p).Sublist ((DeviceFile.sort found).filter p) := by
    simpa using kept.filter p
  exact (kept'.eq_of_length ((sort_perm found).filter p).length_eq.symm).symm

/-- What a list of configuration maps comes to: the files of all of them in the order of their
names, or the error of the first one that holds no file. -/
inductive Lists (maps : List ConfigMap) : Except Config.Error (List DeviceFile) → Prop where
  | all {found files : List DeviceFile} (read : Collects Offers maps (.ok found))
      (sorted : SortedBy (·.configMap) found files) : Lists maps (.ok files)
  | refused {e : Config.Error} (first : Collects Offers maps (.error e)) : Lists maps (.error e)

theorem filesOf_eq_iff {maps : List ConfigMap} {r : Except Config.Error (List DeviceFile)} :
    filesOf maps = r ↔ Lists maps r := by
  have collects {r} : maps.mapM fileOf = r ↔ Collects Offers maps r := mapM_eq_iff fileOf_eq_iff
  unfold filesOf
  constructor
  · rintro rfl
    cases found : maps.mapM fileOf with
    | error e => exact .refused (collects.mp found)
    | ok fs => exact .all (collects.mp found) (sortedBy_sort fs)
  · intro h
    cases h with
    | all read sorted =>
      rw [collects.mpr read, (sortedBy_sort _).unique sorted |>.symm]
      rfl
    | refused first =>
      rw [collects.mpr first]
      rfl

/-! ## Cycles -/

section

variable {server : ServerObject} {routes : Bool} {now : Time} {metrics : Metrics} {log : Task.Log}
  {outcome : Except Error Action × Metrics} {place ns selector : String} {maps : List ConfigMap}

/-- Maps of which one holds no file end a cycle with an error. Otherwise their files go into the
pod and into the configuration for service information. -/
theorem cycle_reads {spec : OnboardingSpec}
    (run : Run (reconcile server routes now metrics) log outcome)
    (placed : server.metadata.namespace = some place) (kind : server.spec = .onboarding spec)
    (member : listing ns selector maps ∈ log) :
    (∀ e, filesOf maps = .error e → outcome.1 = .error (.deviceFile e)) ∧
    ∀ files, filesOf maps = .ok files →
      (∀ ns d a, ⟨.applyDeployment ns d, a⟩ ∈ log →
        d = deployment (ownerOf server place) spec files) ∧
      ∀ ns m a, ⟨.applyConfigMap ns m, a⟩ ∈ log →
        m.metadata.nameOrStem = serviceInfoMapName server.metadata.nameOrStem →
          m = (ownerOf server place).configMap (serviceInfoMapName server.metadata.nameOrStem)
            Layout.serviceInfo.fileName (ServiceInfoConfig.ofSpec spec.serviceInfo files).text := by
  obtain ⟨applied, applies, inApplied⟩ := cycle_applies run placed
  have listed := inApplied _ member rfl
  rw [kind] at applies
  refine ⟨fun e refused => ?_, fun files read => ⟨fun ns d a made => ?_,
    fun ns m a made named => ?_⟩⟩
  · obtain ⟨past, rest, rfl⟩ := List.append_of_mem listed
    exact (ends_of_refused refused applies).2
  · exact deployed applies listed read (inApplied _ made rfl)
  · exact configured applies listed read (inApplied _ made rfl) named

end

/-- For all names, annotations and keys:

- what a configuration map comes to is told by what three of its annotations hold between blanks,
  and by which keys it has, be they of texts or of bytes: it is incomplete without a name or a path,
  its file is missing if there is no such key, and otherwise it holds the file;
- so two maps of one name with the same contents of these annotations, and with the same keys, come
  to the same, whatever else their annotations say;
- a list of maps comes to the files of all of them, each once, in the order of the names, or to the
  error of the first one that holds no file;
- a cycle of an onboarding server ends with this error, or delivers these files. -/
theorem descriptors_accepted :
    (∀ configMap (annotations : Dictionary String) keys r,
      ofConfigMap configMap annotations keys = r ↔
        Yields configMap annotations.find? (· ∈ keys) r) ∧
    (∀ m r, fileOf m = r ↔ Yields m.metadata.nameOrStem m.annotated? m.HasKey r) ∧
    (∀ m m' : ConfigMap, m.metadata.nameOrStem = m'.metadata.nameOrStem →
      (∀ a ∈ fileAnnotations, SameContents (m.annotated? a) (m'.annotated? a)) →
      (∀ key, m.HasKey key ↔ m'.HasKey key) → fileOf m = fileOf m') ∧
    (∀ maps r, filesOf maps = r ↔ Lists maps r) ∧
    ∀ (server : ServerObject) spec place routes now metrics log
      (outcome : Except Error Action × Metrics) ns selector maps,
      server.spec = .onboarding spec → server.metadata.namespace = some place →
      Run (reconcile server routes now metrics) log outcome → listing ns selector maps ∈ log →
        (∃ e, Lists maps (.error e) ∧ outcome.1 = .error (.deviceFile e)) ∨
        ∃ files, Lists maps (.ok files) ∧
          (∀ ns d a, ⟨.applyDeployment ns d, a⟩ ∈ log →
            d = deployment (ownerOf server place) spec files) ∧
          ∀ ns m a, ⟨.applyConfigMap ns m, a⟩ ∈ log →
            m.metadata.nameOrStem = serviceInfoMapName server.metadata.nameOrStem →
              m = (ownerOf server place).configMap (serviceInfoMapName server.metadata.nameOrStem)
                Layout.serviceInfo.fileName
                (ServiceInfoConfig.ofSpec spec.serviceInfo files).text := by
  refine ⟨fun _ _ _ _ => ofConfigMap_eq_iff, fileOf_eq_iff, fun _ _ => fileOf_congr,
    fun _ _ => filesOf_eq_iff, ?_⟩
  intro server spec place routes now metrics log outcome ns selector maps kind placed run member
  obtain ⟨refused, read⟩ := cycle_reads run placed kind member
  cases found : filesOf maps with
  | error e => exact .inl ⟨e, filesOf_eq_iff.mp found, refused e found⟩
  | ok files => exact .inr ⟨files, filesOf_eq_iff.mp found, read files found⟩

/-- A configuration map that holds its file in bytes, with blanks in its annotations. -/
def paddedGreeting (name : String) : ConfigMap where
  metadata :=
    { name := some name
      annotations := some (.ofList
        [(DeviceFile.nameAnnotation, "\u3000motd "),
          (DeviceFile.pathAnnotation, "/etc/motd\n"), (DeviceFile.permissionsAnnotation, " "),
          ("team", "edge")]) }
  binaryData := some (.ofList [("motd", "d2VsY29tZQ==")])

/-- The answers of a cluster that accepts everything and lists some configuration maps. -/
def offering (maps : List ConfigMap) (q : Call) (u : Unit) : q.Answer × Unit :=
  match q with
  | .listConfigMaps .. => ((.ok maps : Except Cluster.Error (List ConfigMap)), u)
  | q => (accepting q, u)

/-- A file, and a configuration map without annotations. -/
def mixedMaps : List ConfigMap := [paddedGreeting "motd", { metadata := { name := some "bare" } }]

def fdoServer : ServerObject :=
  serverNamed "fdo" (.onboarding (onboardingAt "owner.example.com"))

/-- Blanks, a further annotation and the kind of the data make no difference to a file. A map
without annotations ends the cycle that lists it. -/
theorem descriptors_accepted_padded :
    fileOf (paddedGreeting "motd") = fileOf (greeting "motd") ∧
    ∃ log, ∃ outcome : Except Error Action × Metrics,
      Run (reconcile fdoServer false ⟨0, 0⟩ .zero) log outcome ∧
      listing "devices" (fileSelector "fdo") mixedMaps ∈ log ∧
      outcome.1 = .error (.deviceFile (.incompleteFile "bare")) := by
  obtain ⟨-, -, same, lists, cycles⟩ := descriptors_accepted
  constructor
  · refine same _ _ rfl (fun a member => sameContents_iff.mpr ?_) fun key => ?_
    · simp only [fileAnnotations, List.mem_cons, List.not_mem_nil, or_false] at member
      rcases member with rfl | rfl | rfl <;> rfl
    · rw [← ConfigMap.mem_keys_iff, ← ConfigMap.mem_keys_iff]
      rfl
  · have run := run_trace (offering mixedMaps) (reconcile fdoServer false ⟨0, 0⟩ .zero) ()
    have member : listing "devices" (fileSelector "fdo") mixedMaps ∈
        trace (offering mixedMaps) (reconcile fdoServer false ⟨0, 0⟩ .zero) () :=
      List.mem_cons_of_mem _ List.mem_cons_self
    have bare : filesOf mixedMaps = .error (.incompleteFile "bare") := rfl
    refine ⟨_, _, run, member, ?_⟩
    rcases cycles _ _ _ _ _ _ _ _ _ _ _ rfl rfl run member with
      ⟨e, refused, ended⟩ | ⟨files, read, -⟩
    · cases bare.symm.trans ((lists _ _).mpr refused)
      exact ended
    · cases bare.symm.trans ((lists _ _).mpr read)

end Reconcile.Onboarding

end DeviceOnboard

import DeviceOnboard.Controller.Basic
import DeviceOnboard.Proofs.ListedFiles
import DeviceOnboard.Proofs.SelectorText
import Mathlib.Logic.Function.Basic

/-!
# Files wake the servers that deliver them

A server finds its files with a selector that is written as a text, and the controller finds the
server of a file by its label and its namespace. Both lead to the same pairs of a server and a file,
and the watch of the controller is for all of these files. So whatever happens to configuration
maps, a change of one wakes the server that delivers its file from then on, and no other; when the
label is gone, it wakes the one that delivered the file until then. A file that is handed from one
server to another wakes the new one alone.
-/
namespace DeviceOnboard

open DeviceOnboard.Kubernetes DeviceOnboard.Server

/-! ## Names -/

namespace Kubernetes

/-- A letter or a digit of the name of an object. -/
def isNameChar (c : Char) : Bool := ('a' ≤ c && c ≤ 'z') || ('0' ≤ c && c ≤ '9')

/-- Letters, digits and hyphens, with no hyphen at either end. -/
structure IsNamePart (cs : List Char) : Prop where
  first : cs.head?.any isNameChar = true
  last : cs.getLast?.any isNameChar = true
  inner : (cs.all fun c => isNameChar c || c == '-') = true

/-- The names that servers can have: at most 253 characters, in parts between dots. -/
structure IsObjectName (name : String) : Prop where
  short : name.length ≤ 253
  parts : ∀ part ∈ Text.pieces '.' name.toList, IsNamePart part

instance (cs : List Char) : Decidable (IsNamePart cs) :=
  decidable_of_iff (cs.head?.any isNameChar = true ∧ cs.getLast?.any isNameChar = true ∧
    (cs.all fun c => isNameChar c || c == '-') = true)
    ⟨fun ⟨first, last, inner⟩ => ⟨first, last, inner⟩, fun h => ⟨h.first, h.last, h.inner⟩⟩

instance (name : String) : Decidable (IsObjectName name) :=
  decidable_of_iff (name.length ≤ 253 ∧ ∀ part ∈ Text.pieces '.' name.toList, IsNamePart part)
    ⟨fun ⟨short, parts⟩ => ⟨short, parts⟩, fun h => ⟨h.short, h.parts⟩⟩

example : IsObjectName "edge.local" := by decide

theorem not_mem_intercalate {c separator : Char} {parts : List (List Char)}
    (different : c ≠ separator) (plain : ∀ p ∈ parts, c ∉ p) :
    c ∉ [separator].intercalate parts := by
  induction parts with
  | nil => simp
  | cons p parts ih =>
    obtain ⟨first, rest⟩ := List.forall_mem_cons.mp plain
    cases parts with
    | nil => simpa using first
    | cons q parts => simp [List.intercalate_cons_cons, first, different, ih rest]

theorem IsObjectName.no_comma {name : String} (h : IsObjectName name) : ',' ∉ name.toList := by
  rw [← Text.intercalate_pieces '.' name.toList]
  refine not_mem_intercalate (by decide) fun part member comma => ?_
  exact absurd (List.all_eq_true.mp (h.parts part member).inner ',' comma) (by decide)

theorem Selector.ofText_equals {key value : String} (keyPlain : ',' ∉ key.toList ∧ '=' ∉ key.toList)
    (valuePlain : ',' ∉ value.toList) : ofText (key ++ "=" ++ value) = ⟨[.equals key value]⟩ := by
  have plain : ',' ∉ (key ++ "=" ++ value).toList := by
    simp [String.toList_append, keyPlain, valuePlain]
  have nonempty : key ++ "=" ++ value ≠ "" := by
    intro empty
    simpa [String.toList_append] using congrArg String.toList empty
  rw [ofText, if_neg nonempty, Text.splitText, Text.pieces_of_not_mem plain, List.map_singleton,
    List.map_singleton, String.ofList_toList, Requirement.ofText_equals value keyPlain.2]

end Kubernetes

/-! ## The server of a file -/

namespace Reconcile.Onboarding

variable {m : ConfigMap} {ns name : String}

theorem selects_fileSelector_iff (plain : ',' ∉ name.toList) {labels : String → Option String} :
    (Selector.ofText (fileSelector name)).selects labels = true ↔
      labels fileOwnerLabel = some name := by
  rw [fileSelector, Selector.ofText_equals (by decide) plain]
  simp [Selector.selects, Requirement.holds]

theorem fileOwner?_eq_some_iff : fileOwner? m = some (ns, name) ↔
    m.metadata.namespace = some ns ∧ m.metadata.label? fileOwnerLabel = some name := by
  unfold fileOwner?
  cases m.metadata.namespace <;> cases m.metadata.label? fileOwnerLabel <;> simp

/-- Whether a server delivers the file of a map: it lists the map with its selector. -/
def Delivers (ns name : String) (m : ConfigMap) : Prop :=
  m.metadata.namespace = some ns ∧
    (Selector.ofText (fileSelector name)).selects m.metadata.label? = true

/-- The label that leads to a server is the one that its selector asks for. -/
theorem fileOwner?_iff_delivers (plain : ',' ∉ name.toList) :
    fileOwner? m = some (ns, name) ↔ Delivers ns name m := by
  rw [Delivers, fileOwner?_eq_some_iff, selects_fileSelector_iff plain]

end Reconcile.Onboarding

namespace Controller

open Reconcile.Onboarding

/-! ## What the watch reports -/

/-- Whether an object with such metadata is under a watch, of one namespace or of all. -/
def Watch.covers (w : Watch) (scope : Option String) (m : ObjectMeta) : Bool :=
  (scope.all fun ns => m.namespace == some ns) && w.selector.selects m.label?

section

variable {m : ConfigMap} {ns name : String} {scope : Option String}

/-- Where servers are watched, a map is under the watch of files if it has the label. -/
theorem covers_files (placed : m.metadata.namespace = some ns) (watched : ∀ s ∈ scope, s = ns) :
    Watch.files.covers scope m.metadata = (m.metadata.label? fileOwnerLabel).isSome := by
  have inScope : (scope.all fun s => m.metadata.namespace == some s) = true := by
    rw [placed]
    cases scope with
    | none => rfl
    | some s => simp [watched s rfl]
  simp [Watch.covers, Watch.files, inScope, Selector.selects, Requirement.holds]

/-- The file of a server is under the watch of files, wherever the server is. -/
theorem covers_of_fileOwner? (owned : fileOwner? m = some (ns, name))
    (watched : ∀ s ∈ scope, s = ns) : Watch.files.covers scope m.metadata = true := by
  obtain ⟨placed, labelled⟩ := fileOwner?_eq_some_iff.mp owned
  rw [covers_files placed watched, labelled, Option.isSome_some]

theorem fileServers (owned : fileOwner? m = some (ns, name)) (kind : Kind) :
    (Change.file m).servers kind = [⟨some ns, name⟩] := by
  simp [Change.servers, fileServer?, owned]

/-- A change of a file asks for its server at once, and for no other. -/
theorem time?_observe_file (owned : fileOwner? m = some (ns, name)) (c : Controller)
    (second : Nat) :
    (∃ t ≤ second, (observe c second (.file m)).schedule.time? ⟨some ns, name⟩ = some t) ∧
    ∀ key ≠ ⟨some ns, name⟩,
      (observe c second (.file m)).schedule.time? key = c.schedule.time? key := by
  have asked : (observe c second (.file m)).schedule =
      c.schedule.request ⟨some ns, name⟩ second := by
    simp [observe, fileServers owned]
  rw [asked]
  refine ⟨?_, fun key other => ?_⟩
  · rw [Schedule.time?_request, if_pos rfl]
    refine ⟨_, ?_, rfl⟩
    cases c.schedule.time? ⟨some ns, name⟩ <;> simp
  · rw [Schedule.time?_request, if_neg other]

end

/-- The label of files is read as what it asks for, that the label is there. -/
theorem ofText_files : Selector.ofText Watch.files.selector.text = Watch.files.selector := by
  decide

/-- A change of the configuration maps of a cluster. -/
inductive MapChange where
  /-- A map is created, or takes the place of the one with its key. -/
  | put (m : ConfigMap)
  | delete (key : Key)

/-- The configuration maps of a cluster. -/
abbrev Maps := Key → Option ConfigMap

namespace MapChange

def key : MapChange → Key
  | put m => .ofMetadata m.metadata
  | delete key => key

/-- The map that is there after a change. -/
def map? : MapChange → Option ConfigMap
  | put m => some m
  | delete _ => none

def after (maps : Maps) (c : MapChange) : Maps := Function.update maps c.key c.map?

/-- The maps after a history of changes. -/
def heldAfter (history : List MapChange) : Maps := history.foldl after fun _ => none

/-- The map that a watch of files reports for a change: the new one, or the old one when the new
one is not under the watch. -/
def reported? (scope : Option String) (maps : Maps) (c : MapChange) : Option ConfigMap :=
  (c.map?.filter fun m => Watch.files.covers scope m.metadata).or
    ((maps c.key).filter fun m => Watch.files.covers scope m.metadata)

/-- The servers that a change wakes. -/
def woken (scope : Option String) (maps : Maps) (c : MapChange) : List Key :=
  ((c.reported? scope maps).map fun m => (Change.file m).servers .onboarding).getD []

/-! ## Histories -/

variable {scope : Option String} {maps : Maps} {c : MapChange} {history : List MapChange}
  {m m' : ConfigMap} {ns name : String} {key : Key}

theorem woken_of_reported (reported : c.reported? scope maps = some m)
    (owned : fileOwner? m = some (ns, name)) : c.woken scope maps = [⟨some ns, name⟩] := by
  rw [woken, reported, Option.map_some, Option.getD_some, fileServers owned]

theorem reported_new (new : c.map? = some m)
    (covered : Watch.files.covers scope m.metadata = true) : c.reported? scope maps = some m := by
  simp [reported?, new, covered]

theorem reported_old (old : maps c.key = some m)
    (covered : Watch.files.covers scope m.metadata = true)
    (passed : ∀ m' ∈ c.map?, Watch.files.covers scope m'.metadata = false) :
    c.reported? scope maps = some m := by
  have new : (c.map?.filter fun m => Watch.files.covers scope m.metadata) = none := by
    simpa using passed
  simp [reported?, new, old, covered]

theorem heldAfter_concat : heldAfter (history ++ [c]) = after (heldAfter history) c := by
  simp [heldAfter]

/-- A map that is there was put there by the last change of its key. -/
theorem exists_last_put (held : heldAfter history key = some m) :
    ∃ past later, history = past ++ .put m :: later ∧ (put m).key = key ∧
      ∀ c ∈ later, c.key ≠ key := by
  induction history using List.reverseRecOn with
  | nil => cases held
  | append_singleton history c ih =>
    rw [heldAfter_concat, after, Function.update_apply] at held
    split at held
    · rename_i same
      cases c with
      | put m' =>
        obtain rfl : m' = m := Option.some.inj held
        exact ⟨history, [], rfl, same.symm, List.forall_mem_nil _⟩
      | delete => cases held
    · rename_i other
      obtain ⟨past, later, rfl, own, untouched⟩ := ih held
      refine ⟨past, later ++ [c], by simp, own, fun c' member => ?_⟩
      rcases List.mem_append.mp member with member | member
      · exact untouched c' member
      · obtain rfl := List.mem_singleton.mp member
        exact Ne.symm other

/-- A map takes the place of another one in its namespace. -/
theorem namespace_eq_of_held (held : heldAfter history c.key = some m) (new : c.map? = some m') :
    m'.metadata.namespace = m.metadata.namespace := by
  obtain ⟨-, -, -, own, -⟩ := exists_last_put held
  cases c with
  | put m'' =>
    obtain rfl : m'' = m' := Option.some.inj new
    exact (congrArg Key.namespace own).symm
  | delete => cases new

/-- Whoever a change wakes is the server of the map as it is then, or of the map as it was when the
watch does not show the new one. -/
theorem owner_of_woken (woken : key ∈ c.woken scope maps) :
    ∃ m ns name, fileOwner? m = some (ns, name) ∧ key = ⟨some ns, name⟩ ∧
      (c.map? = some m ∨ maps c.key = some m ∧
        ∀ m' ∈ c.map?, Watch.files.covers scope m'.metadata = false) := by
  unfold MapChange.woken at woken
  cases reported : c.reported? scope maps with
  | none => simp [reported] at woken
  | some m =>
    have origin : c.map? = some m ∨ maps c.key = some m ∧
        ∀ m' ∈ c.map?, Watch.files.covers scope m'.metadata = false := by
      rcases Option.or_eq_some_iff.mp reported with new | ⟨passed, old⟩
      · exact .inl (Option.filter_eq_some_iff.mp new).1
      · exact .inr ⟨(Option.filter_eq_some_iff.mp old).1, by simpa using passed⟩
    cases owned : fileOwner? m with
    | none => simp [reported, Change.servers, fileServer?, owned] at woken
    | some owner =>
      rw [reported, Option.map_some, Option.getD_some, fileServers owned] at woken
      exact ⟨m, owner.1, owner.2, owned, List.mem_singleton.mp woken, origin⟩

section

variable (watched : ∀ s ∈ scope, s = ns)
include watched

/-- A change wakes the server that delivers the file from then on. -/
theorem woken_new (new : c.map? = some m) (owned : fileOwner? m = some (ns, name)) :
    c.woken scope maps = [⟨some ns, name⟩] :=
  woken_of_reported (reported_new new (covers_of_fileOwner? owned watched)) owned

/-- When the label of a file is gone, the server that delivered it is woken. -/
theorem woken_last (old : maps c.key = some m) (owned : fileOwner? m = some (ns, name))
    (last : ∀ m' ∈ c.map?, m'.metadata.label? fileOwnerLabel = none) :
    c.woken scope maps = [⟨some ns, name⟩] := by
  refine woken_of_reported (reported_old old (covers_of_fileOwner? owned watched) ?_) owned
  intro m' new
  simp [Watch.covers, Watch.files, Selector.selects, Requirement.holds, last m' new]

/-- A change of a file that a server delivers wakes the one that the file is labelled for from then
on, or this server if the label is gone. -/
theorem woken_of_held (held : heldAfter history c.key = some m)
    (owned : fileOwner? m = some (ns, name)) : c.woken scope (heldAfter history) =
      [⟨some ns, (c.map?.bind fun m' => m'.metadata.label? fileOwnerLabel).getD name⟩] := by
  have placed := (fileOwner?_eq_some_iff.mp owned).1
  cases new : c.map? with
  | none => exact woken_last watched held owned (by simp [new])
  | some m' =>
    have inPlace := (namespace_eq_of_held held new).trans placed
    rw [Option.bind_some]
    cases labelled : m'.metadata.label? fileOwnerLabel with
    | none => exact woken_last watched held owned (by simp [new, labelled])
    | some name' =>
      exact woken_new watched new (fileOwner?_eq_some_iff.mpr ⟨inPlace, labelled⟩)

theorem mem_woken_iff : ⟨some ns, name⟩ ∈ c.woken scope (heldAfter history) ↔
    (∃ m ∈ c.map?, fileOwner? m = some (ns, name)) ∨
    (∀ m ∈ c.map?, m.metadata.label? fileOwnerLabel = none) ∧
      ∃ m ∈ heldAfter history c.key, fileOwner? m = some (ns, name) := by
  constructor
  · intro woken
    obtain ⟨m, ns', name', owned, same, origin⟩ := owner_of_woken woken
    obtain ⟨rfl, rfl⟩ : ns = ns' ∧ name = name' := by simpa using same
    rcases origin with new | ⟨old, passed⟩
    · exact .inl ⟨m, new, owned⟩
    · refine .inr ⟨fun m' new => ?_, m, old, owned⟩
      have inPlace := (namespace_eq_of_held old new).trans (fileOwner?_eq_some_iff.mp owned).1
      simpa [covers_files inPlace watched] using passed m' new
  · rintro (⟨m, new, owned⟩ | ⟨last, m, old, owned⟩)
    · rw [woken_new watched new owned]
      exact List.mem_singleton_self _
    · rw [woken_last watched old owned last]
      exact List.mem_singleton_self _

end

end MapChange

end Controller

namespace Reconcile

open Cluster Dialogue Reconcile.Onboarding Reconcile.Task

variable {server : ServerObject} {routes : Bool} {now : Time} {metrics : Metrics} {log : Log}
  {outcome : Except Error Action × Metrics} {ns : String}

/-- A cycle lists the configuration maps with the selector of its server, in its namespace. -/
theorem listed_in_cycle (placed : server.metadata.namespace = some ns)
    (run : Run (reconcile server routes now metrics) log outcome) {ns' selector : String}
    (listed : .listConfigMaps ns' selector ∈ log.map (·.1)) :
    ns' = ns ∧ selector = fileSelector server.metadata.nameOrStem := by
  obtain ⟨past, planned⟩ := cycle_planned run placed listed rfl
  exact listed_planned planned

end Reconcile

namespace Controller

open Dialogue Reconcile Reconcile.Onboarding MapChange

/-- A configuration map leads to the server that lists it with the selector of its files, and such
maps are under the watch of files, wherever the controller looks for servers; a change that is
reported asks for this server at once. So over all histories of changes:

- a file that a server delivers was put there by a change that has woken just this server;
- a change wakes a server exactly if this delivers the file from then on, or if the label of the
  file is gone and the server delivered it until then;
- a change of a file that a server delivers wakes one server: the one that the file is labelled for
  from then on, be it another one, or else the one that delivered it. -/
theorem files_wake_their_servers (routes : Bool) :
    (∀ m ns name, IsObjectName name → (fileOwner? m = some (ns, name) ↔
      m.metadata.namespace = some ns ∧
        (Selector.ofText (fileSelector name)).selects m.metadata.label? = true)) ∧
    (∀ server ns now metrics log (outcome : Except Error Action × Metrics),
      server.metadata.namespace = some ns → Run (reconcile server routes now metrics) log outcome →
        ∀ ns' selector, .listConfigMaps ns' selector ∈ log.map (·.1) →
          ns' = ns ∧ selector = fileSelector server.metadata.nameOrStem) ∧
    Watch.files ∈ Watch.all .onboarding routes ∧
    Selector.ofText Watch.files.selector.text = Watch.files.selector ∧
    ∀ scope ns name, (∀ s ∈ scope, s = ns) → IsObjectName name →
      (∀ m, Delivers ns name m → Watch.files.covers scope m.metadata = true ∧
        ∀ c second,
          (∃ t ≤ second, (observe c second (.file m)).schedule.time? ⟨some ns, name⟩ = some t) ∧
          ∀ key ≠ ⟨some ns, name⟩,
            (observe c second (.file m)).schedule.time? key = c.schedule.time? key) ∧
      ∀ history,
        (∀ key (m : ConfigMap), heldAfter history key = some m → Delivers ns name m →
          ∃ past later, history = past ++ .put m :: later ∧ (∀ c ∈ later, c.key ≠ key) ∧
            woken scope (heldAfter past) (.put m) = [⟨some ns, name⟩]) ∧
        ∀ c : MapChange,
          (⟨some ns, name⟩ ∈ c.woken scope (heldAfter history) ↔
            (∃ m ∈ c.map?, Delivers ns name m) ∨
            (∀ m ∈ c.map?, m.metadata.label? fileOwnerLabel = none) ∧
              ∃ m ∈ heldAfter history c.key, Delivers ns name m) ∧
          ∀ m ∈ heldAfter history c.key, Delivers ns name m →
            c.woken scope (heldAfter history) =
              [⟨some ns, (c.map?.bind fun m' => m'.metadata.label? fileOwnerLabel).getD name⟩] := by
  refine ⟨fun m ns name valid => fileOwner?_iff_delivers valid.no_comma,
    fun _ _ _ _ _ _ placed run _ _ => listed_in_cycle placed run,
    by cases routes <;> decide, ofText_files, fun scope ns name watched valid => ?_⟩
  have owned {m} : Delivers ns name m ↔ fileOwner? m = some (ns, name) :=
    (fileOwner?_iff_delivers valid.no_comma).symm
  simp only [owned]
  refine ⟨fun m owned => ⟨covers_of_fileOwner? owned watched, time?_observe_file owned⟩,
    fun history => ⟨fun key m held owned => ?_, fun c => ⟨mem_woken_iff watched,
      fun m held owned => woken_of_held watched held owned⟩⟩⟩
  obtain ⟨past, later, split, -, untouched⟩ := exists_last_put held
  exact ⟨past, later, split, untouched, woken_new watched rfl owned⟩

/-- A configuration map in the namespace `devices` that holds a file for a server. -/
def fileFor (server : String) : ConfigMap where
  metadata :=
    { name := some "motd"
      «namespace» := some "devices"
      labels := some (.ofList [(fileOwnerLabel, server)]) }

/-- A file that `hub` hands on to `edge.local` wakes this, and a file that `edge.local` hands on to
`hub` wakes that. -/
theorem edge_woken :
    IsObjectName "edge.local" ∧ Delivers "devices" "edge.local" (fileFor "edge.local") ∧
      (∃ past later, [.put (fileFor "hub"), .put (fileFor "edge.local")] =
          past ++ .put (fileFor "edge.local") :: later ∧
        woken none (heldAfter past) (.put (fileFor "edge.local")) =
          [⟨some "devices", "edge.local"⟩]) ∧
      woken none (heldAfter [.put (fileFor "hub"), .put (fileFor "edge.local")])
        (.put (fileFor "hub")) = [⟨some "devices", "hub"⟩] := by
  have valid : IsObjectName "edge.local" := by decide
  have delivers : Delivers "devices" "edge.local" (fileFor "edge.local") := ⟨rfl, rfl⟩
  have held : heldAfter [.put (fileFor "hub"), .put (fileFor "edge.local")]
      ⟨some "devices", "motd"⟩ = some (fileFor "edge.local") := rfl
  obtain ⟨-, -, -, -, watched⟩ := files_wake_their_servers true
  obtain ⟨-, histories⟩ := watched none "devices" "edge.local" (by simp) valid
  obtain ⟨past, later, split, -, wakes⟩ := (histories _).1 _ _ held delivers
  have handedOn := ((histories _).2 (.put (fileFor "hub"))).2 _ held delivers
  exact ⟨valid, delivers, ⟨past, later, split, wakes⟩, handedOn⟩

/-- The server that delivers a file is not always among those that a change of it wakes: when `hub`
hands its file on to `edge.local`, only the latter is woken. -/
theorem handed_on_wakes_other :
    ¬ ∀ history (c : MapChange) ns name m, IsObjectName name →
      heldAfter history c.key = some m → Delivers ns name m →
        ∀ other, c.woken none (heldAfter history) = [other] → other = ⟨some ns, name⟩ := by
  intro claim
  have same := claim [.put (fileFor "hub")] (.put (fileFor "edge.local")) "devices" "hub"
    (fileFor "hub") (by decide) rfl ⟨rfl, rfl⟩ ⟨some "devices", "edge.local"⟩ rfl
  exact absurd same (by decide)

end Controller

end DeviceOnboard

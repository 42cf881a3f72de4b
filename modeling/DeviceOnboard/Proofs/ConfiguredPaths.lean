import DeviceOnboard.Config.Manufacturing
import DeviceOnboard.Config.Onboarding
import DeviceOnboard.Config.Rendezvous
import DeviceOnboard.Config.ServiceInfo

/-!
# Paths in the configurations

A configuration tells its server where the keys and the files for devices lie. The settings that
are not copied from the description of a server hold no path of a key but those of the server's
keys, and the places of files are those of the files that the configuration was made with.
-/
namespace DeviceOnboard

namespace Yaml

mutual

/-- The strings of a document, each with the keys that lead to it. -/
def settings (place : List String) : Yaml → List (List String × String)
  | .bool _ | .int _ | .word _ => []
  | .str s => [(place, s)]
  | .seq items => settingsOfItems place items
  | .map entries => settingsOfEntries place entries

def settingsOfItems (place : List String) : List Yaml → List (List String × String)
  | [] => []
  | item :: items => settings place item ++ settingsOfItems place items

def settingsOfEntries (place : List String) : List (String × Yaml) → List (List String × String)
  | [] => []
  | (key, value) :: entries => settings (place ++ [key]) value ++ settingsOfEntries place entries

end

/-! ### What all settings satisfy -/

section

variable {P : List String → String → Prop} {place : List String} {key : String}
variable {groups : List Entries}

/-- All strings of a document satisfy a property. -/
def Every (P : List String → String → Prop) (place : List String) (y : Yaml) : Prop :=
  ∀ setting ∈ y.settings place, P setting.1 setting.2

theorem every_str {s : String} (holds : P place s) : Every P place (.str s) := by
  simpa [Every, settings] using holds

theorem every_bool (b : Bool) : Every P place (.bool b) := by
  simp [Every, settings]

theorem every_int (n : Int) : Every P place (.int n) := by
  simp [Every, settings]

theorem every_seq {α : Type} {items : List α} {write : α → Yaml}
    (each : ∀ a ∈ items, Every P place (write a)) : Every P place (.seq (items.map write)) := by
  unfold Every at each ⊢
  rw [settings]
  induction items with
  | nil => simp [settingsOfItems]
  | cons a items ih =>
    obtain ⟨first, rest⟩ := List.forall_mem_cons.mp each
    rw [List.map_cons, settingsOfItems]
    exact List.forall_mem_append.mpr ⟨first, ih rest⟩

theorem every_strings {l : List String} (each : ∀ s ∈ l, P place s) : Every P place (.strings l) :=
  every_seq fun s member => every_str (each s member)

/-- All strings of the entries of a mapping satisfy a property. -/
def EveryEntry (P : List String → String → Prop) (place : List String) (groups : List Entries) :
    Prop :=
  ∀ setting ∈ settingsOfEntries place groups.flatten, P setting.1 setting.2

theorem every_record (entries : EveryEntry P place groups) : Every P place (.record groups) :=
  entries

theorem entry_nil : EveryEntry P place [] := by
  simp [EveryEntry, settingsOfEntries]

theorem entry_one {value : Yaml} (first : Every P (place ++ [key]) value)
    (rest : EveryEntry P place groups) : EveryEntry P place (.one key value :: groups) :=
  List.forall_mem_append.mpr ⟨first, rest⟩

theorem entry_opt {α : Type} {value : Option α} {write : α → Yaml}
    (first : ∀ a, value = some a → Every P (place ++ [key]) (write a))
    (rest : EveryEntry P place groups) : EveryEntry P place (.opt key value write :: groups) := by
  cases value with
  | none => exact rest
  | some a => exact entry_one (first a rfl) rest

theorem entry_many {α : Type} {items : List α} {write : α → Yaml}
    (first : ∀ a ∈ items, Every P (place ++ [key]) (write a))
    (rest : EveryEntry P place groups) : EveryEntry P place (.many key items write :: groups) := by
  cases items with
  | nil => exact rest
  | cons a items => exact entry_one (every_seq first) rest

end

end Yaml

namespace Config

open DeviceOnboard.Server DeviceOnboard.Yaml

/-! ## Paths -/

/-- A path lies below a directory. -/
def liesBelow (directory path : String) : Bool :=
  (directory ++ "/").toList.isPrefixOf path.toList

theorem liesBelow_append (directory rest : String) :
    liesBelow directory (directory ++ "/" ++ rest) = true := by
  simp [liesBelow, String.toList_append]

/-- A path lies below only one of two directories, neither of which lies below the other. -/
theorem liesBelow_of_apart {directory path : String} (other : String)
    (below : liesBelow directory path = true)
    (apart : liesBelow directory (other ++ "/") = false)
    (apart' : liesBelow other (directory ++ "/") = false) : liesBelow other path = false := by
  unfold liesBelow at *
  rw [← Bool.not_eq_true, List.isPrefixOf_iff_prefix] at *
  intro below'
  rcases List.prefix_or_prefix_of_prefix below below' with first | second
  · exact apart first
  · exact apart' second

/-- The places of the settings that are copied from the description of a server, from the host of
its route, or from the annotations of a file. They name hosts, users, commands and what lies on a
device, and may hold any string, also one that looks like a path of a key. No container opens what
they name, so of the paths that it does open none is here. -/
def copiedPlaces : List (List String) :=
  [["rendezvous_info", "dns"], ["rendezvous_info", "ipaddress"],
    ["owner_addresses", "addresses", "dns_name"], ["owner_addresses", "addresses", "ip_address"],
    ["service_info", "initial_user", "username"], ["service_info", "initial_user", "sshkeys"],
    ["service_info", "files", "path"], ["service_info", "files", "permissions"],
    ["service_info", "commands", "command"], ["service_info", "commands", "args"],
    ["service_info", "diskencryption_clevis", "disk_label"],
    ["service_info", "diskencryption_clevis", "binding", "pin"],
    ["service_info", "diskencryption_clevis", "binding", "config"]]

/-- The place of the settings that tell where the files for devices lie. -/
def sourcePlace : List String := ["service_info", "files", "source_path"]

/-- The string is a path of a key. -/
def isKeyPath (s : String) : Bool := liesBelow keysDirectory s && s ≠ keysDirectory ++ "/"

theorem isKeyPath_keyPath {file : String} (named : file ≠ "") :
    isKeyPath (keyPath file) = true := by
  unfold isKeyPath keyPath
  simp [liesBelow_append, named]

/-- What a setting of a configuration for some keys and files may be. -/
inductive Placed (keys : List String) (files : List DeviceFile) : List String → String → Prop where
  | copied {place : List String} {s : String} (copied : place ∈ copiedPlaces) :
      Placed keys files place s
  | key {place : List String} {file : String} (own : file ∈ keys)
      (elsewhere : place ≠ sourcePlace) :
      Placed keys files place (keyPath file)
  | source {f : DeviceFile} (own : f ∈ files) (apart : isKeyPath f.sourcePath = false) :
      Placed keys files sourcePlace f.sourcePath
  | other {place : List String} {s : String} (apart : isKeyPath s = false)
      (elsewhere : place ≠ sourcePlace) : Placed keys files place s

variable {keys : List String} {files : List DeviceFile} {place : List String} {s : String}

theorem Placed.key_of_path (placed : Placed keys files place s) (own : place ∉ copiedPlaces)
    (path : isKeyPath s = true) : ∃ file ∈ keys, s = keyPath file := by
  cases placed with
  | copied copied => exact absurd copied own
  | key member => exact ⟨_, member, rfl⟩
  | source _ apart => simp [apart] at path
  | other apart => simp [apart] at path

theorem Placed.source_of_place (placed : Placed keys files sourcePlace s) :
    ∃ f ∈ files, s = f.sourcePath := by
  generalize same : sourcePlace = place at placed
  cases placed with
  | copied copied => exact absurd (same ▸ copied) (by decide)
  | key _ elsewhere => exact absurd same.symm elsewhere
  | source own => exact ⟨_, own, rfl⟩
  | other _ elsewhere => exact absurd same.symm elsewhere

/-! ## The settings of the servers -/

/-- The files of the keys that a server of some kind reads. -/
def keyNames (kind : Kind) : List String := (keyFiles kind).map (·.file)

theorem every_directoryStore {path : String} (apart : isKeyPath path = false)
    (elsewhere : place ++ ["Directory"] ++ ["path"] ≠ sourcePlace) :
    Every (Placed keys files) place (directoryStore path) :=
  every_record <| entry_one
    (every_record <| entry_one (every_str (.other apart elsewhere)) entry_nil) entry_nil

theorem every_key {file : String} (own : file ∈ keys) (elsewhere : place ≠ sourcePlace) :
    Every (Placed keys files) place (.str (keyPath file)) :=
  every_str (.key own elsewhere)

theorem every_copied (copied : place ∈ copiedPlaces) (s : String) :
    Every (Placed keys files) place (.str s) :=
  every_str (.copied copied)

theorem every_other (apart : isKeyPath s = false) (elsewhere : place ≠ sourcePlace) :
    Every (Placed keys files) place (.str s) :=
  every_str (.other apart elsewhere)

theorem placed_rendezvousEntry (e : RendezvousEntry) :
    Every (Placed keys files) ["rendezvous_info"] e.toYaml := by
  have protocols (t : Transport) : isKeyPath t.name = false := by cases t <;> rfl
  exact every_record <| entry_opt (fun dns _ => every_copied (by decide) dns) <|
    entry_opt (fun ip _ => every_copied (by decide) ip.text) <|
    entry_opt (fun _ _ => every_int _) <| entry_opt (fun _ _ => every_int _) <|
    entry_opt (fun t _ => every_other (protocols t) (by decide)) entry_nil

theorem placed_diun (d : Diun) :
    Every (Placed (keyNames .manufacturing) files) ["protocols", "diun"]
      (ManufacturingConfig.diunYaml d) := by
  have types : isKeyPath d.keyType.name = false := by cases d.keyType <;> rfl
  have storages (t : KeyStorageType) : isKeyPath t.name = false := by cases t <;> rfl
  refine every_record <| entry_one (every_key (by decide) (by decide)) <|
    entry_one (every_key (by decide) (by decide)) <|
    entry_one (every_other types (by decide)) <|
    entry_one (every_other (by decide) (by decide)) <|
    entry_one (every_strings fun s member => ?_) entry_nil
  obtain ⟨t, -, rfl⟩ := List.mem_map.mp member
  exact .other (storages t) (by decide)

theorem placed_manufacturing (c : ManufacturingConfig) :
    Every (Placed (keyNames .manufacturing) files) [] c.toYaml :=
  every_record <| entry_one (every_directoryStore (by decide) (by decide)) <|
    entry_one (every_directoryStore (by decide) (by decide)) <|
    entry_one (every_directoryStore (by decide) (by decide)) <|
    entry_one (every_other (by decide) (by decide)) <|
    entry_one (every_seq fun e _ => placed_rendezvousEntry e) <|
    entry_one (every_record <| entry_one (every_bool _) <|
      entry_opt (fun d _ => placed_diun d) entry_nil) <|
    entry_one (every_record <| entry_one (every_key (by decide) (by decide)) <|
      entry_one (every_key (by decide) (by decide)) <|
      entry_one (every_key (by decide) (by decide)) <|
      entry_one (every_key (by decide) (by decide)) <|
      entry_one (every_key (by decide) (by decide)) entry_nil) entry_nil

theorem placed_ownerEntry (e : OwnerEntry) :
    Every (Placed keys files) ["owner_addresses"] e.toYaml := by
  have protocols : isKeyPath e.transport.name = false := by cases e.transport <;> rfl
  exact every_record <| entry_one (every_other protocols (by decide)) <|
    entry_one (every_int _) <| entry_one (every_seq fun h _ => every_record <|
      entry_opt (fun dns _ => every_copied (by decide) dns) <|
      entry_opt (fun ip _ => every_copied (by decide) ip.text) entry_nil) entry_nil

theorem placed_onboarding (c : OnboardingConfig) :
    Every (Placed (keyNames .onboarding) files) [] c.toYaml :=
  every_record <| entry_one (every_directoryStore (by decide) (by decide)) <|
    entry_one (every_directoryStore (by decide) (by decide)) <|
    entry_one (every_other (by decide) (by decide)) <|
    entry_one (every_key (by decide) (by decide)) <|
    entry_one (every_key (by decide) (by decide)) <|
    entry_one (every_key (by decide) (by decide)) <|
    entry_one (every_seq fun e _ => placed_ownerEntry e) <| entry_one (every_bool _) <|
    entry_one (every_other (by decide) (by decide)) <|
    entry_one (every_record <| entry_one (every_record <|
      entry_one (every_other (by decide) (by decide)) entry_nil) entry_nil) entry_nil

theorem placed_rendezvous : Every (Placed (keyNames .rendezvous) files) [] Rendezvous.toYaml :=
  every_record <| entry_one (every_directoryStore (by decide) (by decide)) <|
    entry_one (every_directoryStore (by decide) (by decide)) <|
    entry_one (every_key (by decide) (by decide)) <|
    entry_one (every_other (by decide) (by decide)) entry_nil

/-- A server for service information reads no keys. -/
theorem placed_serviceInfo (c : ServiceInfoConfig)
    (apart : ∀ f ∈ c.files, isKeyPath f.sourcePath = false) :
    Every (Placed [] c.files) [] c.toYaml := by
  have user (u : InitialUser) : Every (Placed [] c.files) ["service_info", "initial_user"]
      (ServiceInfoConfig.userYaml u) :=
    every_record <| entry_one (every_copied (by decide) _) <|
      entry_one (every_strings fun s _ => .copied (by decide)) entry_nil
  have file (f : DeviceFile) (own : f ∈ c.files) :
      Every (Placed [] c.files) ["service_info", "files"] (ServiceInfoConfig.fileYaml f) :=
    every_record <| entry_one (every_copied (by decide) _) <|
      entry_opt (fun p _ => every_copied (by decide) p) <|
      entry_one (every_str (.source own (apart f own))) entry_nil
  have command (x : Command) : Every (Placed [] c.files) ["service_info", "commands"]
      (ServiceInfoConfig.commandYaml x) :=
    every_record <| entry_one (every_copied (by decide) _) <|
      entry_one (every_strings fun s _ => .copied (by decide)) <| entry_one (every_bool _) <|
      entry_one (every_bool _) <| entry_one (every_bool _) entry_nil
  have disk (d : DiskEncryption) :
      Every (Placed [] c.files) ["service_info", "diskencryption_clevis"]
        (ServiceInfoConfig.diskYaml d) :=
    every_record <| entry_one (every_copied (by decide) _) <|
      entry_one (every_record <| entry_one (every_copied (by decide) _) <|
        entry_one (every_copied (by decide) _) entry_nil) <| entry_one (every_bool _) entry_nil
  exact every_record <| entry_one (every_other (by decide) (by decide)) <|
    entry_one (every_directoryStore (by decide) (by decide)) <|
    entry_one (every_other (by decide) (by decide)) <|
    entry_one (every_record <| entry_opt (fun u _ => user u) <| entry_many file <|
      entry_many (fun x _ => command x) <| entry_many (fun d _ => disk d) entry_nil) entry_nil

end Config

end DeviceOnboard
